import PoolIndexer.Proofs.Candle.Merging
import PoolIndexer.Proofs.Keyed
import PoolIndexer.Proofs.Sorting

/-! Reading candles. What is read but for the heights depends only on what every minute of the pair
comes to, as long as the candles of a minute are stored in the order of their heights. -/
namespace PoolIndexer

namespace Candle

/-- All of a candle but its height. -/
def withoutHeight (c : Candle) : Candle := { c with height := 0 }

/-! ## One minute -/

theorem intoBucket_withoutHeight (pair : String) (interval : Int) (buckets : List (Int × Candle))
    (c : Candle) :
    (intoBucket pair interval buckets c).map (Prod.map id withoutHeight) =
      intoBucket pair interval (buckets.map (Prod.map id withoutHeight)) c.withoutHeight :=
  Keyed.map_upsert rfl (fun _ => rfl) buckets

theorem foldl_withoutHeight (pair : String) (interval : Int) (candles : List Candle)
    (buckets : List (Int × Candle)) :
    (candles.foldl (intoBucket pair interval) buckets).map (Prod.map id withoutHeight) =
      (candles.map withoutHeight).foldl (intoBucket pair interval)
        (buckets.map (Prod.map id withoutHeight)) := by
  induction candles generalizing buckets with
  | nil => rfl
  | cons c rest ih =>
    simp only [List.foldl_cons, List.map_cons, ih, intoBucket_withoutHeight]

theorem merged_withoutHeight (candles : List Candle) :
    merged (candles.map withoutHeight) = (merged candles).map withoutHeight := by
  induction candles with
  | nil => rfl
  | cons c rest ih =>
    simp only [List.map_cons, merged, ih]
    cases merged rest with
    | none => rfl
    | some later => rfl

/-- Two candles that begin together go into a bucket as the one that they come to. -/
theorem intoBucket_extend (pair : String) (interval : Int) (buckets : List (Int × Candle))
    {c later : Candle} (time : later.time = c.time) (height : later.height = c.height) :
    intoBucket pair interval (intoBucket pair interval buckets c) later =
      intoBucket pair interval buckets (c.extend later) := by
  unfold intoBucket
  have same : (c.extend later).time = c.time := rfl
  rw [time, same]
  dsimp only
  rw [Keyed.upsert_upsert]
  congr 1
  funext old
  cases old with
  | none =>
    simp only [extend]
    rw [height]
  | some bucket =>
    simp only [extend, Binary64.max_assoc, Binary64.min_assoc, Int.add_assoc]
    rw [height]

/-- Candles that begin together go into a bucket as what they come to. -/
theorem foldl_minute (pair : String) (interval : Int) {c whole : Candle} {rest : List Candle}
    (together : ∀ d ∈ rest, d.time = c.time ∧ d.height = c.height)
    (comesTo : merged (c :: rest) = some whole) (buckets : List (Int × Candle)) :
    (c :: rest).foldl (intoBucket pair interval) buckets =
      intoBucket pair interval buckets whole := by
  induction rest generalizing c whole buckets with
  | nil =>
    simp only [merged_singleton, Option.some.injEq] at comesTo
    rw [comesTo]
    rfl
  | cons d rest ih =>
    obtain ⟨time, height⟩ := together d List.mem_cons_self
    have others : ∀ e ∈ rest, e.time = (c.extend d).time ∧ e.height = (c.extend d).height :=
      fun e member => together e (List.mem_cons_of_mem _ member)
    have grouped : merged (c.extend d :: rest) = some whole := by
      rw [← comesTo]
      cases later : merged rest with
      | none => simp [merged, later]
      | some l => simp [merged, later, extend_assoc]
    rw [List.foldl_cons, List.foldl_cons, intoBucket_extend pair interval buckets time height]
    exact ih others grouped buckets

/-! ## All minutes -/

/-- What the candles that begin at a time come to. -/
def minute (time : Int) (candles : List Candle) : Option Candle :=
  merged (candles.filter fun c => c.time = time)

theorem minute_head (c : Candle) (rest : List Candle) :
    ∃ whole, minute c.time (c :: rest) = some whole := by
  rw [← Option.ne_none_iff_exists']
  simp [minute, merged]

theorem minute_filter_ne (time other : Int) (candles : List Candle) :
    minute other (candles.filter fun c => ¬ c.time = time) =
      if other = time then none else minute other candles := by
  unfold minute
  rw [List.filter_filter]
  split
  · rename_i same
    rw [merged_eq_none, List.filter_eq_nil_iff]
    intro c _
    simp [same]
  · rename_i differs
    congr 1
    refine List.filter_congr fun c _ => ?_
    by_cases here : c.time = other
    · simp [here, differs]
    · simp [here]

/-- Candles that all begin at a time fill a bucket with what they come to. -/
theorem foldl_of_minute (pair : String) (interval : Int) {time : Int} {candles : List Candle}
    {whole : Candle} (level : ∀ c ∈ candles, c.height = 0)
    (comesTo : minute time candles = some whole) (buckets : List (Int × Candle)) :
    (candles.filter fun c => c.time = time).foldl (intoBucket pair interval) buckets =
      intoBucket pair interval buckets whole := by
  have within : ∀ c ∈ candles.filter (fun c => c.time = time), c.time = time ∧ c.height = 0 := by
    intro c member
    obtain ⟨member, here⟩ := List.mem_filter.mp member
    exact ⟨by simpa using here, level c member⟩
  unfold minute at comesTo
  cases chosen : candles.filter fun c => c.time = time with
  | nil => simp [chosen, merged] at comesTo
  | cons c rest =>
    rw [chosen] at within comesTo
    have first := within c List.mem_cons_self
    refine foldl_minute pair interval (fun d member => ?_) comesTo buckets
    have other := within d (List.mem_cons_of_mem _ member)
    exact ⟨other.1.trans first.1.symm, other.2.trans first.2.symm⟩

/-- What begins first begins first in every list whose minutes come to the same. -/
theorem least_of_minutes {candles others : List Candle} {least : Int}
    (bound : ∀ c ∈ candles, least ≤ c.time)
    (minutes : ∀ time, minute time candles = minute time others) :
    ∀ d ∈ others, least ≤ d.time := by
  intro d member
  have present : minute d.time candles ≠ none := by
    rw [minutes d.time]
    unfold minute
    rw [Ne, merged_eq_none, List.filter_eq_nil_iff]
    intro absent
    exact absent d member (by simp)
  unfold minute at present
  rw [Ne, merged_eq_none, List.filter_eq_nil_iff] at present
  have found : ∃ c ∈ candles, c.time = d.time := by simpa using present
  obtain ⟨c, among, same⟩ := found
  have := bound c among
  omega

/-- Candles sorted by time fill the buckets alike if every minute of both comes to the same. -/
theorem foldl_eq_of_minutes (pair : String) (interval : Int) {candles others : List Candle}
    (sorted : candles.Pairwise (·.time ≤ ·.time)) (sortedOthers : others.Pairwise (·.time ≤ ·.time))
    (level : ∀ c ∈ candles, c.height = 0) (levelOthers : ∀ c ∈ others, c.height = 0)
    (minutes : ∀ time, minute time candles = minute time others) (buckets : List (Int × Candle)) :
    candles.foldl (intoBucket pair interval) buckets =
      others.foldl (intoBucket pair interval) buckets := by
  -- the first minute of both is cut off, so the induction is on the length, not on the list
  induction count : candles.length using Nat.strongRecOn generalizing candles others buckets with
  | ind n ih =>
    cases candles with
    | nil =>
      cases others with
      | nil => rfl
      | cons d rest =>
        obtain ⟨whole, comesTo⟩ := minute_head d rest
        rw [← minutes d.time] at comesTo
        cases comesTo
    | cons c rest =>
      have first : ∀ d ∈ c :: rest, c.time ≤ d.time := by
        intro d member
        rcases List.mem_cons.mp member with rfl | member
        · exact Int.le_refl _
        · exact (List.pairwise_cons.mp sorted).1 d member
      have firstOthers := least_of_minutes first minutes
      obtain ⟨whole, comesTo⟩ := minute_head c rest
      have remaining : ∀ time, minute time ((c :: rest).filter fun d => ¬ d.time = c.time) =
          minute time (others.filter fun d => ¬ d.time = c.time) := by
        intro time
        rw [minute_filter_ne, minute_filter_ne, minutes time]
      have shorter : ((c :: rest).filter fun d => ¬ d.time = c.time).length < n := by
        rw [← count]
        refine List.length_filter_lt_length_iff_exists.mpr ⟨c, List.mem_cons_self, by simp⟩
      rw [Sorting.split_least sorted first, Sorting.split_least sortedOthers firstOthers,
        List.foldl_append, List.foldl_append, foldl_of_minute pair interval level comesTo,
        foldl_of_minute pair interval levelOthers ((minutes c.time).symm.trans comesTo)]
      exact ih _ shorter (sorted.filter _) (sortedOthers.filter _)
        (fun d member => level d (List.mem_filter.mp member).1)
        (fun d member => levelOthers d (List.mem_filter.mp member).1) remaining _ rfl

/-! ## Stored candles -/

theorem notAfter_iff {a b : Candle} :
    a.notAfter b ↔ a.time < b.time ∨ (a.time = b.time ∧ a.height ≤ b.height) := by
  simp [notAfter]

theorem notAfter_trans (a b c : Candle) (first : a.notAfter b) (second : b.notAfter c) :
    a.notAfter c := by
  rw [notAfter_iff] at *
  omega

theorem notAfter_total (a b : Candle) : (a.notAfter b || b.notAfter a) = true := by
  rw [Bool.or_eq_true, notAfter_iff, notAfter_iff]
  omega

/-- The candles of a pair that begin together are in the order of their heights. -/
def InOrder (candles : List Candle) : Prop :=
  candles.Pairwise fun a b => a.Meets b → a.height ≤ b.height

/-- The candles of a pair within `[start, stop]`, sorted as they are read. -/
def inReadingOrder (candles : List Candle) (pair : String) (start stop : Int) : List Candle :=
  (candles.filter fun c =>
    c.pair == pair && decide (start ≤ c.time) && decide (c.time ≤ stop)).mergeSort notAfter

theorem rebucket_eq (candles : List Candle) (pair : String) (interval start stop : Int) :
    rebucket candles pair interval start stop =
      ((inReadingOrder candles pair start stop).foldl (intoBucket pair interval) []).map (·.2) :=
  rfl

theorem inReadingOrder_sorted (candles : List Candle) (pair : String) (start stop : Int) :
    (inReadingOrder candles pair start stop).Pairwise (·.time ≤ ·.time) := by
  have sorted := List.pairwise_mergeSort notAfter_trans notAfter_total
    (candles.filter fun c => c.pair == pair && decide (start ≤ c.time) && decide (c.time ≤ stop))
  refine sorted.imp fun {a b} before => ?_
  rw [notAfter_iff] at before
  omega

/-- A minute within the window is read as it is stored, and one outside is not read. -/
theorem filter_inReadingOrder {candles : List Candle} (inOrder : InOrder candles) (pair : String)
    (start stop time : Int) :
    (inReadingOrder candles pair start stop).filter (fun c => c.time = time) =
      if start ≤ time ∧ time ≤ stop then candles.filter (isAt pair time) else [] := by
  have chosen : (candles.filter fun c =>
      c.pair == pair && decide (start ≤ c.time) && decide (c.time ≤ stop)).filter
        (fun c => c.time = time) =
      if start ≤ time ∧ time ≤ stop then candles.filter (isAt pair time) else [] := by
    rw [List.filter_filter]
    split
    · rename_i within
      refine List.filter_congr fun c _ => ?_
      by_cases here : c.time = time
      · simp [isAt, here, within]
      · simp [isAt, here]
    · rename_i outside
      rw [List.filter_eq_nil_iff]
      intro c _
      simp only [Bool.and_eq_true, decide_eq_true_eq, beq_iff_eq]
      rintro ⟨rfl, ⟨_, early⟩, late⟩
      exact outside ⟨early, late⟩
  rw [← chosen]
  refine Sorting.filter_mergeSort notAfter_trans notAfter_total ?_
  rw [chosen]
  split
  · refine (inOrder.filter _).imp_of_mem fun {a b} first second ordered => ?_
    have placeA := isAt_iff.mp (List.mem_filter.mp first).2
    have placeB := isAt_iff.mp (List.mem_filter.mp second).2
    have time : a.time = b.time := placeA.2.trans placeB.2.symm
    have height := ordered ⟨placeA.1.trans placeB.1.symm, time⟩
    exact notAfter_iff.mpr (.inr ⟨time, height⟩)
  · exact List.Pairwise.nil

theorem minute_withoutHeight (time : Int) (candles : List Candle) :
    minute time (candles.map withoutHeight) = (minute time candles).map withoutHeight := by
  unfold minute
  rw [List.filter_map, ← merged_withoutHeight]
  rfl

/-- What is read but for the heights depends on what every minute of the pair comes to. -/
theorem rebucket_withoutHeight {candles others : List Candle} {pair : String}
    (inOrder : InOrder candles) (inOrderOthers : InOrder others)
    (same : ∀ time, merged (candles.filter (isAt pair time)) =
      merged (others.filter (isAt pair time))) (interval start stop : Int) :
    (rebucket candles pair interval start stop).map withoutHeight =
      (rebucket others pair interval start stop).map withoutHeight := by
  have minutes : ∀ time,
      minute time ((inReadingOrder candles pair start stop).map withoutHeight) =
        minute time ((inReadingOrder others pair start stop).map withoutHeight) := by
    intro time
    rw [minute_withoutHeight, minute_withoutHeight]
    unfold minute
    rw [filter_inReadingOrder inOrder, filter_inReadingOrder inOrderOthers]
    split
    · rw [same time]
    · rfl
  have level : ∀ list : List Candle, ∀ c ∈ list.map withoutHeight, c.height = 0 := by
    intro list c member
    obtain ⟨original, _, rfl⟩ := List.mem_map.mp member
    rfl
  have sorted : ∀ list : List Candle,
      ((inReadingOrder list pair start stop).map withoutHeight).Pairwise (·.time ≤ ·.time) :=
    fun list => List.pairwise_map.mpr (inReadingOrder_sorted list pair start stop)
  have filled := foldl_eq_of_minutes pair interval (sorted candles) (sorted others)
    (level _) (level _) minutes []
  have values : ∀ buckets : List (Int × Candle), (buckets.map (·.2)).map withoutHeight =
      (buckets.map (Prod.map id withoutHeight)).map (·.2) := by
    intro buckets
    simp [Function.comp_def]
  rw [rebucket_eq, rebucket_eq, values, values, foldl_withoutHeight, foldl_withoutHeight]
  exact congrArg (List.map (·.2)) filled

end Candle
end PoolIndexer
