import Mathlib.Algebra.BigOperators.Group.List.Basic
import Mathlib.Algebra.Group.Prod
import Mathlib.Algebra.Ring.Int.Defs
import Mathlib.Data.List.Dedup
import Mathlib.Data.List.Induction
import Mathlib.Data.List.Sort
import PoolIndexer.Proofs.Keyed
import PoolIndexer.Proofs.Timestamp
import PoolIndexer.Store.Read

/-! Volumes of two denominations. Every bucket of time with a swap has one, which adds up the swaps
of the bucket; nothing is lost, the other direction tells the same, and the buckets of a longer
interval add up those of a shorter one that divides it. -/
namespace PoolIndexer

/-! ## Adding up by key -/

section

variable {κ : Type} [LT κ] [DecidableLT κ] [DecidableEq κ]

/-- Amounts added up by key. -/
def addedUp (entries : List (κ × (Int × Int))) : List (κ × (Int × Int)) :=
  entries.foldl (fun totals entry => addAmounts entry.1 entry.2 totals) []

theorem addedUp_concat (entries : List (κ × (Int × Int))) (entry : κ × (Int × Int)) :
    addedUp (entries ++ [entry]) = addAmounts entry.1 entry.2 (addedUp entries) := by
  rw [addedUp, List.foldl_concat, addedUp]

/-- Over any choice of keys the sum rises by what is added to a key that is chosen. -/
theorem sum_addAmounts (chosen : κ → Bool) (key : κ) (amounts : Int × Int)
    (totals : List (κ × (Int × Int))) :
    (((addAmounts key amounts totals).filter (chosen ·.1)).map (·.2)).sum =
      ((totals.filter (chosen ·.1)).map (·.2)).sum + if chosen key then amounts else 0 := by
  unfold addAmounts
  induction totals with
  | nil => by_cases its : chosen key <;> simp [Keyed.upsert, its]
  | cons head rest ih =>
    obtain ⟨k, total⟩ := head
    by_cases before : key < k
    · by_cases its : chosen key <;> simp [Keyed.upsert, before, its, add_comm]
    · by_cases here : key = k
      · subst here
        have joined : (total.1 + amounts.1, total.2 + amounts.2) = total + amounts := rfl
        by_cases its : chosen key
        · simp [Keyed.upsert, before, its, joined, add_right_comm]
        · simp [Keyed.upsert, before, its]
      · by_cases first : chosen k <;> simp [Keyed.upsert, before, here, first, ih, add_assoc]

theorem sorted_addedUp [Trans (α := κ) (· < ·) (· < ·) (· < ·)]
    [Std.Trichotomous (α := κ) (· < ·)] (entries : List (κ × (Int × Int))) :
    Keyed.Sorted (addedUp entries) := by
  induction entries using List.reverseRecOn with
  | nil => exact List.Pairwise.nil
  | append_singleton entries entry ih =>
    rw [addedUp_concat]
    exact Keyed.sorted_upsert ih _

theorem mem_keys_addedUp {k : κ} (entries : List (κ × (Int × Int))) :
    k ∈ (addedUp entries).map (·.1) ↔ k ∈ entries.map (·.1) := by
  induction entries using List.reverseRecOn with
  | nil => exact Iff.rfl
  | append_singleton entries entry ih =>
    rw [addedUp_concat, addAmounts, Keyed.mem_keys_upsert, ih]
    simp [or_comm]

theorem sum_addedUp (chosen : κ → Bool) (entries : List (κ × (Int × Int))) :
    (((addedUp entries).filter (chosen ·.1)).map (·.2)).sum =
      ((entries.filter (chosen ·.1)).map (·.2)).sum := by
  induction entries using List.reverseRecOn with
  | nil => rfl
  | append_singleton entries entry ih =>
    rw [addedUp_concat, sum_addAmounts, ih]
    by_cases its : chosen entry.1 <;> simp [its]

/-- Both amounts of all entries may be exchanged before or after. -/
theorem addedUp_swap (entries : List (κ × (Int × Int))) :
    addedUp (entries.map (Prod.map id Prod.swap)) =
      (addedUp entries).map (Prod.map id Prod.swap) := by
  induction entries using List.reverseRecOn with
  | nil => rfl
  | append_singleton entries entry ih =>
    rw [List.map_append, List.map_singleton, addedUp_concat, addedUp_concat, ih]
    exact (Keyed.map_upsert rfl (fun _ => rfl) _).symm

end

theorem fst_sum (amounts : List (Int × Int)) : amounts.sum.1 = (amounts.map (·.1)).sum :=
  map_list_sum (AddMonoidHom.fst Int Int) amounts

theorem snd_sum (amounts : List (Int × Int)) : amounts.sum.2 = (amounts.map (·.2)).sum :=
  map_list_sum (AddMonoidHom.snd Int Int) amounts

/-! ## Swaps of two denominations -/

namespace Swap

/-- The amount of a denomination that changes hands. -/
def moved (op : Swap) (denom : String) : Int :=
  (if op.offerDenom = denom then op.offerAmount else 0) +
    if op.askDenom = denom then op.returnAmount else 0

variable {op : Swap} {a b : String}

theorem volumeOf_eq (different : a ≠ b) (exchanged : (op.offerDenom = a ∧ op.askDenom = b) ∨
    (op.offerDenom = b ∧ op.askDenom = a)) : op.volumeOf a = (op.moved a, op.moved b) := by
  rcases exchanged with ⟨offer, ask⟩ | ⟨offer, ask⟩
  · simp [volumeOf, moved, offer, ask, different, different.symm]
  · simp [volumeOf, moved, offer, ask, different, different.symm]

end Swap

namespace Store

variable (s : Store) (a b : String) (interval start stop : Int)

/-- The swaps between two denominations, in either direction, within a window. -/
def exchanged : List Swap := s.swaps.filter fun op =>
  (start ≤ op.time ∧ op.time ≤ stop) ∧
    ((op.offerDenom = a ∧ op.askDenom = b) ∨ (op.offerDenom = b ∧ op.askDenom = a))

theorem exchanged_eq : s.exchanged a b start stop =
    s.swaps.filter fun op => inWindow start stop op.time && op.exchanges a b :=
  List.filter_congr fun op _ => by
    rw [Bool.eq_iff_iff]
    simp [inWindow, Swap.exchanges]

theorem exchanged_comm : s.exchanged b a start stop = s.exchanged a b start stop :=
  List.filter_congr fun _ _ => decide_eq_decide.mpr (and_congr_right' or_comm)

/-- The bucket of every swap, with the amounts that it exchanges. -/
def volumeEntries : List (Int × (Int × Int)) :=
  (s.exchanged a b start stop).map fun op => (Timestamp.bucket op.time interval, op.volumeOf a)

theorem volumes_eq : s.volumes a b interval start stop =
    (addedUp (s.volumeEntries a b interval start stop)).map fun entry =>
      ⟨entry.1, RowKey.join [a, b], entry.2.1, entry.2.2⟩ := by
  rw [addedUp, volumeEntries, exchanged_eq, List.foldl_map]
  rfl

variable {s a b start stop} in
theorem volumeOf_exchanged (different : a ≠ b) {op : Swap}
    (member : op ∈ s.exchanged a b start stop) : op.volumeOf a = (op.moved a, op.moved b) :=
  Swap.volumeOf_eq different (of_decide_eq_true (List.mem_filter.mp member).2).2

end Store

/-! ## Buckets -/

namespace Volume

/-- The time lies in the bucket of the volume. -/
def covers (v : Volume) (interval time : Int) : Bool :=
  decide (v.time ≤ time) && decide (time < v.time + interval)

/-- The volume of the other direction. -/
def turned (v : Volume) (pair : String) : Volume :=
  { time := v.time, pair, base := v.quote, quote := v.base }

/-- Volumes added up by the buckets of an interval that they begin in. -/
def regroup (pair : String) (interval : Int) (volumes : List Volume) : List Volume :=
  (volumes.map fun v => Timestamp.bucket v.time interval).dedup.map fun time =>
    let its := volumes.filter fun v => Timestamp.bucket v.time interval == time
    { time, pair, base := (its.map (·.base)).sum, quote := (its.map (·.quote)).sum }

/-- The volume adds up those of the swaps that fall into its bucket, of which there are some. -/
structure Gathers (v : Volume) (a b : String) (interval : Int) (swaps : List Swap) : Prop where
  begins : interval ∣ v.time
  pair : v.pair = RowKey.join [a, b]
  filled : ∃ op ∈ swaps, v.covers interval op.time
  base : v.base = ((swaps.filter (v.covers interval ·.time)).map (·.moved a)).sum
  quote : v.quote = ((swaps.filter (v.covers interval ·.time)).map (·.moved b)).sum

end Volume

namespace Store

section

variable {s : Store} {a b : String} {interval start stop : Int}

theorem volumes_ascend :
    ((s.volumes a b interval start stop).map (·.time)).Pairwise (· < ·) := by
  rw [volumes_eq, List.map_map]
  exact List.pairwise_map.mpr (sorted_addedUp (s.volumeEntries a b interval start stop))

theorem mem_volumes_time {time : Int} : time ∈ (s.volumes a b interval start stop).map (·.time) ↔
    ∃ op ∈ s.exchanged a b start stop, Timestamp.bucket op.time interval = time := by
  have keys : (s.volumes a b interval start stop).map (·.time) =
      (addedUp (s.volumeEntries a b interval start stop)).map (·.1) := by
    rw [volumes_eq, List.map_map]
    rfl
  rw [keys, mem_keys_addedUp, volumeEntries, List.map_map]
  exact List.mem_map

theorem volumes_turned (different : a ≠ b) : s.volumes b a interval start stop =
    (s.volumes a b interval start stop).map (·.turned (RowKey.join [b, a])) := by
  have entries : s.volumeEntries b a interval start stop =
      (s.volumeEntries a b interval start stop).map (Prod.map id Prod.swap) := by
    rw [volumeEntries, volumeEntries, exchanged_comm, List.map_map]
    refine List.map_congr_left fun op member => ?_
    have back : op ∈ s.exchanged b a start stop := by rwa [exchanged_comm]
    simp [volumeOf_exchanged different member, volumeOf_exchanged different.symm back]
  rw [volumes_eq, volumes_eq, entries, addedUp_swap, List.map_map, List.map_map]
  rfl

/-- The volumes of any choice of buckets add up the swaps that fall into these. -/
theorem volumes_sum (different : a ≠ b) (chosen : Int → Bool) :
    (((s.volumes a b interval start stop).filter (chosen ·.time)).map
      fun v => (v.base, v.quote)).sum =
    (((s.exchanged a b start stop).filter fun op =>
      chosen (Timestamp.bucket op.time interval)).map fun op => (op.moved a, op.moved b)).sum := by
  have totals : ((s.volumes a b interval start stop).filter (chosen ·.time)).map
      (fun v => (v.base, v.quote)) =
      ((addedUp (s.volumeEntries a b interval start stop)).filter (chosen ·.1)).map (·.2) := by
    rw [volumes_eq, List.filter_map, List.map_map]
    rfl
  have entries : ((s.volumeEntries a b interval start stop).filter (chosen ·.1)).map (·.2) =
      ((s.exchanged a b start stop).filter fun op =>
        chosen (Timestamp.bucket op.time interval)).map fun op => (op.moved a, op.moved b) := by
    rw [volumeEntries, List.filter_map, List.map_map]
    refine List.map_congr_left fun op member => ?_
    exact volumeOf_exchanged different (List.mem_filter.mp member).1
  rw [totals, sum_addedUp, entries]

/-- No other volume has the bucket of a volume. -/
theorem volumes_filter {v : Volume} (member : v ∈ s.volumes a b interval start stop) :
    (s.volumes a b interval start stop).filter (·.time == v.time) = [v] := by
  have distinct : ((s.volumes a b interval start stop).map (·.time)).Nodup :=
    volumes_ascend.imp Int.ne_of_lt
  have same : ∀ other ∈ s.volumes a b interval start stop,
      (other.time == v.time) = (other == v) := by
    intro other among
    rw [Bool.eq_iff_iff, beq_iff_eq, beq_iff_eq]
    exact ⟨fun times => List.inj_on_of_nodup_map distinct among member times, congrArg _⟩
  rw [List.filter_congr same, List.filter_beq, List.count_eq_one_of_mem distinct.of_map member]
  rfl

theorem volumes_pair {v : Volume} (member : v ∈ s.volumes a b interval start stop) :
    v.pair = RowKey.join [a, b] := by
  rw [volumes_eq] at member
  obtain ⟨entry, -, rfl⟩ := List.mem_map.mp member
  rfl

/-- A volume adds up the swaps of its bucket. -/
theorem volumes_amounts (different : a ≠ b) {v : Volume}
    (member : v ∈ s.volumes a b interval start stop) :
    (v.base, v.quote) = (((s.exchanged a b start stop).filter fun op =>
      Timestamp.bucket op.time interval == v.time).map fun op => (op.moved a, op.moved b)).sum := by
  have sums := @volumes_sum s a b interval start stop different (· == v.time)
  rwa [volumes_filter member, List.map_singleton, List.sum_singleton] at sums

variable (positive : 0 < interval)
  (inRange : ∀ op ∈ s.exchanged a b start stop, Timestamp.InRange interval op.time)
include positive inRange

theorem volumes_gather (different : a ≠ b) {v : Volume}
    (member : v ∈ s.volumes a b interval start stop) :
    v.Gathers a b interval (s.exchanged a b start stop) := by
  obtain ⟨op, among, first⟩ := mem_volumes_time.mp (List.mem_map_of_mem member)
  have begins : interval ∣ v.time := by
    rw [← first]
    exact Timestamp.dvd_bucket positive (inRange op among)
  have covered : ∀ op ∈ s.exchanged a b start stop,
      (Timestamp.bucket op.time interval == v.time) = v.covers interval op.time := by
    intro op among
    rw [Bool.eq_iff_iff, beq_iff_eq, Timestamp.bucket_eq_iff positive (inRange op among) begins]
    simp [Volume.covers]
  have amounts := volumes_amounts different member
  rw [List.filter_congr covered] at amounts
  refine ⟨begins, volumes_pair member, ⟨op, among, ?_⟩, ?_, ?_⟩
  · rw [← covered op among, first]
    exact beq_self_eq_true v.time
  · exact (congrArg Prod.fst amounts).trans (by rw [fst_sum, List.map_map]; rfl)
  · exact (congrArg Prod.snd amounts).trans (by rw [snd_sum, List.map_map]; rfl)

/-! ## Buckets of a multiple of the interval -/

variable {k : Int} (multiple : 1 ≤ k)
  (coarse : ∀ op ∈ s.exchanged a b start stop, Timestamp.InRange (k * interval) op.time)
include multiple coarse

theorem volumes_times : ((s.volumes a b interval start stop).map fun v =>
      Timestamp.bucket v.time (k * interval)).dedup =
    (s.volumes a b (k * interval) start stop).map (·.time) := by
  have positive' : 0 < k * interval := Int.mul_pos (by omega) positive
  have range : ∀ v ∈ s.volumes a b interval start stop,
      Timestamp.InRange (k * interval) v.time := by
    intro v member
    obtain ⟨op, among, same⟩ := mem_volumes_time.mp (List.mem_map_of_mem member)
    rw [← same]
    exact Timestamp.inRange_bucket positive (inRange op among) (coarse op among)
  have ascending : ((s.volumes a b interval start stop).map fun v =>
      Timestamp.bucket v.time (k * interval)).Pairwise (· ≤ ·) := by
    refine List.pairwise_map.mpr ((List.pairwise_map.mp volumes_ascend).imp_of_mem ?_)
    intro v w memberV memberW before
    exact Timestamp.bucket_mono positive' (range v memberV) (range w memberW) before.le
  have strictly := (ascending.sublist (List.dedup_sublist _)).and (List.nodup_dedup _)
  refine (strictly.imp fun both => lt_of_le_of_ne both.1 both.2).eq_of_mem_iff volumes_ascend
    fun time => ?_
  rw [List.mem_dedup, mem_volumes_time, List.mem_map]
  constructor
  · rintro ⟨v, member, rfl⟩
    obtain ⟨op, among, same⟩ := mem_volumes_time.mp (List.mem_map_of_mem member)
    refine ⟨op, among, ?_⟩
    rw [← same, Timestamp.bucket_bucket positive (inRange op among) (coarse op among) multiple]
  · rintro ⟨op, among, rfl⟩
    obtain ⟨v, member, same⟩ := List.mem_map.mp (mem_volumes_time.mpr ⟨op, among, rfl⟩)
    refine ⟨v, member, ?_⟩
    rw [same, Timestamp.bucket_bucket positive (inRange op among) (coarse op among) multiple]

theorem regroup_volumes (different : a ≠ b) :
    Volume.regroup (RowKey.join [a, b]) (k * interval) (s.volumes a b interval start stop) =
      s.volumes a b (k * interval) start stop := by
  have each : ∀ c ∈ s.volumes a b (k * interval) start stop,
      (((s.volumes a b interval start stop).filter fun v =>
        Timestamp.bucket v.time (k * interval) == c.time).map fun v => (v.base, v.quote)).sum =
      (c.base, c.quote) := by
    intro c member
    rw [volumes_amounts different member,
      volumes_sum different fun time => Timestamp.bucket time (k * interval) == c.time]
    refine congrArg (fun ops : List Swap => (ops.map fun op => (op.moved a, op.moved b)).sum)
      (List.filter_congr fun op among => ?_)
    rw [Timestamp.bucket_bucket positive (inRange op among) (coarse op among) multiple]
  rw [Volume.regroup, volumes_times positive inRange multiple coarse, List.map_map]
  conv_rhs => rw [← List.map_id (s.volumes a b (k * interval) start stop)]
  refine List.map_congr_left fun c member => ?_
  have base := congrArg Prod.fst (each c member)
  have quote := congrArg Prod.snd (each c member)
  rw [fst_sum, List.map_map] at base
  rw [snd_sum, List.map_map] at quote
  change Volume.mk c.time _ _ _ = Volume.mk c.time c.pair c.base c.quote
  rw [volumes_pair member]
  exact congrArg₂ (Volume.mk c.time _) base quote

end

/-- The volumes of two denominations stand in the order of their buckets. Each adds up the swaps of
its bucket, and together they add up all swaps of the window, whichever way these go. The other
direction has the same buckets with the amounts exchanged, and a multiple of the interval has the
buckets put together. -/
theorem volumes_conserve (s : Store) {a b : String} (different : a ≠ b) {interval : Int}
    (positive : 0 < interval) {start stop : Int}
    (inRange : ∀ op ∈ s.exchanged a b start stop, Timestamp.InRange interval op.time) :
    ((s.volumes a b interval start stop).map (·.time)).Pairwise (· < ·) ∧
    (∀ v ∈ s.volumes a b interval start stop,
      v.Gathers a b interval (s.exchanged a b start stop)) ∧
    ((s.volumes a b interval start stop).map (·.base)).sum =
      ((s.exchanged a b start stop).map (·.moved a)).sum ∧
    ((s.volumes a b interval start stop).map (·.quote)).sum =
      ((s.exchanged a b start stop).map (·.moved b)).sum ∧
    s.volumes b a interval start stop =
      (s.volumes a b interval start stop).map (·.turned (RowKey.join [b, a])) ∧
    ∀ k : Int, 1 ≤ k →
      (∀ op ∈ s.exchanged a b start stop, Timestamp.InRange (k * interval) op.time) →
      Volume.regroup (RowKey.join [a, b]) (k * interval) (s.volumes a b interval start stop) =
        s.volumes a b (k * interval) start stop := by
  have total := @volumes_sum s a b interval start stop different fun _ => true
  simp only [List.filter_true] at total
  refine ⟨volumes_ascend, fun v member => volumes_gather positive inRange different member, ?_, ?_,
    volumes_turned different, fun k multiple coarse =>
      regroup_volumes positive inRange multiple coarse different⟩
  · have base := congrArg Prod.fst total
    rwa [fst_sum, fst_sum, List.map_map, List.map_map] at base
  · have quote := congrArg Prod.snd total
    rwa [snd_sum, snd_sum, List.map_map, List.map_map] at quote

/-! Swaps in both directions on both sides of the beginning of 1970, and one of another pair. -/

def swapAt (time : Int) (offer : String) (offered : Int) (ask : String) (returned : Int) : Swap where
  key := ""
  txHash := ""
  height := 7
  time := time
  pairAddress := "pair"
  sender := "alice"
  offerDenom := offer
  offerAmount := offered
  askDenom := ask
  returnAmount := returned

def epochStore : Store :=
  { swaps := [swapAt 61 "orai" 10 "usdt" 20, swapAt (-1) "usdt" 40 "orai" 19,
      swapAt (-60) "orai" 5 "usdt" 11, swapAt 0 "orai" 5 "atom" 1, swapAt 300 "usdt" 4 "orai" 2] }

theorem volumes_conserve_epoch :
    epochStore.volumes "orai" "usdt" 60 (-60) 100 =
      [⟨-60, "orai-usdt", 24, 51⟩, ⟨60, "orai-usdt", 10, 20⟩] ∧
    epochStore.volumes "usdt" "orai" 60 (-60) 100 =
      [⟨-60, "usdt-orai", 51, 24⟩, ⟨60, "usdt-orai", 20, 10⟩] ∧
    Volume.regroup "orai-usdt" (3 * 60) (epochStore.volumes "orai" "usdt" 60 (-60) 100) =
      epochStore.volumes "orai" "usdt" (3 * 60) (-60) 100 := by
  have inRange : ∀ interval ∈ [60, 3 * 60], ∀ op ∈ epochStore.exchanged "orai" "usdt" (-60) 100,
      Timestamp.InRange interval op.time := by
    unfold Timestamp.InRange
    decide +kernel
  obtain ⟨_, _, _, _, turned, nested⟩ := volumes_conserve epochStore (a := "orai") (b := "usdt")
    (by decide) (by decide) (inRange 60 (by decide))
  have volumes : epochStore.volumes "orai" "usdt" 60 (-60) 100 =
      [⟨-60, "orai-usdt", 24, 51⟩, ⟨60, "orai-usdt", 10, 20⟩] := by decide +kernel
  refine ⟨volumes, ?_, nested 3 (by decide) (inRange _ (by decide))⟩
  rw [turned, volumes]
  rfl

end Store
end PoolIndexer
