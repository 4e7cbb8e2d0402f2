import PoolIndexer.Proofs.Reserves
import PoolIndexer.Apr

/-! Rows of one time at another time. The rows that seeding writes differ from those of another
seeding in their time and in the key that is built from it, and in nothing else: which of them are
kept, and which pools they describe, does not depend on the time. -/
namespace PoolIndexer

/-! ## Keys -/

namespace RowKey

theorem poolApr_toList (time : Int) (pair : String) (supply bond : Int) (rewards : String)
    (apr : Binary64) : (poolApr time pair supply bond rewards apr).toList =
      Numeral.ofInt time ++ '-' :: (pair.toList ++ '-' :: (Numeral.ofInt supply ++ '-' ::
        (Numeral.ofInt bond ++ '-' :: (rewards.toList ++ '-' :: apr.plainText)))) := by
  simp [poolApr, join, Numeral.text]

end RowKey

/-- The row at another time. -/
def PoolAmount.stamped (time : Int) (r : PoolAmount) : PoolAmount :=
  { r with key := RowKey.poolAmount time r.pairAddress, time }

/-- The row at another time. -/
def PoolApr.stamped (time : Int) (r : PoolApr) : PoolApr :=
  { r with key := RowKey.poolApr time r.pairAddress r.supply r.bond r.rewards r.apr, time }

/-- The key of a row is that of its time, its pair and what its yield depends on. -/
def PoolApr.Keyed (r : PoolApr) : Prop :=
  r.key = RowKey.poolApr r.time r.pairAddress r.supply r.bond r.rewards r.apr

section

variable {time : Int}

theorem PoolAmount.stamped_key_iff {a b : PoolAmount} (keyed : a.Keyed) (keyed' : b.Keyed)
    (together : a.time = b.time) :
    (a.stamped time).key = (b.stamped time).key ↔ a.key = b.key := by
  rw [keyed.key_eq_iff keyed', and_iff_right together]
  simp [stamped, RowKey.poolAmount_inj]

theorem PoolApr.stamped_key_iff {a b : PoolApr} (keyed : a.Keyed) (keyed' : b.Keyed)
    (together : a.time = b.time) :
    (a.stamped time).key = (b.stamped time).key ↔ a.key = b.key := by
  rw [keyed, keyed', together]
  simp only [stamped, ← String.toList_inj, RowKey.poolApr_toList, List.append_cancel_left_eq]

end

/-! ## Rows that are kept -/

/-- Changing rows in a way that keeps equal keys equal and different ones different makes no
difference to which of them are added. -/
theorem foldl_addNew_map {α : Type} {key : α → String} {f : α → α} {P : α → Prop}
    (alike : ∀ {a b}, P a → P b → (key (f a) = key (f b) ↔ key a = key b)) {rows old : List α}
    (there : ∀ a ∈ old, P a) (new : ∀ a ∈ rows, P a) :
    (rows.map f).foldl (addNew key) (old.map f) = (rows.foldl (addNew key) old).map f := by
  induction rows generalizing old with
  | nil => rfl
  | cons row rest ih =>
    obtain ⟨first, others⟩ := List.forall_mem_cons.mp new
    have same : (old.map f).any (key · == key (f row)) = old.any (key · == key row) := by
      rw [List.any_map, Bool.eq_iff_iff, List.any_eq_true, List.any_eq_true]
      refine exists_congr fun a => and_congr_right fun member => ?_
      simpa using alike (there a member) first
    have added : addNew key (old.map f) (f row) = (addNew key old row).map f := by
      unfold addNew
      rw [same]
      split
      · rfl
      · rw [List.map_append, List.map_singleton]
    rw [List.map_cons, List.foldl_cons, List.foldl_cons, added]
    refine ih (fun a member => ?_) others
    unfold addNew at member
    split at member
    · exact there a member
    · rcases List.mem_append.mp member with present | here
      · exact there a present
      · rwa [List.mem_singleton.mp here]

section

variable {time : Int}

theorem PoolAmount.foldl_stamped {rows : List PoolAmount} (now : Int)
    (all : ∀ r ∈ rows, r.Keyed ∧ r.time = time) :
    (rows.map (·.stamped now)).foldl (addNew PoolAmount.key) [] =
      (rows.foldl (addNew PoolAmount.key) []).map (·.stamped now) := by
  have none : ∀ r ∈ ([] : List PoolAmount), r.Keyed ∧ r.time = time := by simp
  exact foldl_addNew_map (f := stamped now)
    (fun a b => stamped_key_iff a.1 b.1 (a.2.trans b.2.symm)) none all

theorem PoolApr.foldl_stamped {rows : List PoolApr} (now : Int)
    (all : ∀ r ∈ rows, r.Keyed ∧ r.time = time) :
    (rows.map (·.stamped now)).foldl (addNew PoolApr.key) [] =
      (rows.foldl (addNew PoolApr.key) []).map (·.stamped now) := by
  have none : ∀ r ∈ ([] : List PoolApr), r.Keyed ∧ r.time = time := by simp
  exact foldl_addNew_map (f := stamped now)
    (fun a b => stamped_key_iff a.1 b.1 (a.2.trans b.2.symm)) none all

end

/-! ## Rows that are written -/

theorem Snapshot.initialAmounts_stamped (s : Snapshot) (pairs : List Pair) (time now : Int) :
    (s.initialAmounts pairs time).map (·.stamped now) = s.initialAmounts pairs now := by
  unfold initialAmounts
  rw [List.map_filterMap]
  simp only [Option.map_map]
  rfl

theorem Snapshot.initialAmounts_at (s : Snapshot) (pairs : List Pair) (time : Int) :
    ∀ r ∈ s.initialAmounts pairs time, r.Keyed ∧ r.time = time := by
  intro r member
  obtain ⟨pair, -, held⟩ := List.mem_filterMap.mp member
  obtain ⟨pool, -, rfl⟩ := Option.map_eq_some_iff.mp held
  exact ⟨rfl, rfl⟩

theorem AprInput.row_stamped {input : AprInput} {pools : Snapshot} {book : PriceBook}
    {height : Nat} {time : Int} (now : Int) {r : PoolApr}
    (given : input.row pools book height time = .ok r) :
    input.row pools book height now = .ok (r.stamped now) ∧ r.Keyed ∧ r.time = time := by
  obtain ⟨apr, computed, same⟩ := Result.bind_ok.mp given
  obtain rfl := Except.ok.inj same
  exact ⟨Result.bind_ok.mpr ⟨apr, computed, rfl⟩, rfl, rfl⟩

theorem aprRows_stamped {inputs : List AprInput} {pools : Snapshot} {book : PriceBook}
    {height : Nat} {time : Int} (now : Int) {rows : List PoolApr}
    (given : aprRows inputs pools book height time = .ok rows) :
    aprRows inputs pools book height now = .ok (rows.map (·.stamped now)) ∧
      ∀ r ∈ rows, r.Keyed ∧ r.time = time := by
  unfold aprRows at given ⊢
  induction inputs generalizing rows with
  | nil =>
    cases given
    exact ⟨rfl, by simp⟩
  | cons input rest ih =>
    rw [List.mapM_cons] at given ⊢
    obtain ⟨r, first, mapping⟩ := Result.bind_ok.mp given
    obtain ⟨others, mapped, same⟩ := Result.bind_ok.mp mapping
    cases same
    obtain ⟨again, keyed⟩ := AprInput.row_stamped now first
    obtain ⟨againOthers, keyedOthers⟩ := ih mapped
    refine ⟨Result.bind_ok.mpr ⟨_, again, Result.bind_ok.mpr ⟨_, againOthers, rfl⟩⟩, ?_⟩
    exact List.forall_mem_cons.mpr ⟨keyed, keyedOthers⟩

/-! ## Pools that are read back -/

theorem Snapshot.ofHistory_stamped (pairs : List Pair) (rows : List PoolAmount) (height : Nat)
    (now : Int) : ofHistory pairs (rows.map (·.stamped now)) height = ofHistory pairs rows height := by
  unfold ofHistory
  congr 1
  refine List.map_congr_left fun pair _ => ?_
  have found : (rows.map (·.stamped now)).find? (·.pairAddress == pair.address) =
      (rows.find? (·.pairAddress == pair.address)).map (·.stamped now) := List.find?_map
  rw [found]
  cases rows.find? (·.pairAddress == pair.address) with
  | none => rfl
  | some row => rfl

theorem filter_of_distinct {rows : List PoolAmount}
    (distinct : (rows.map (·.pairAddress)).Nodup) (address : String) :
    rows.filter (·.pairAddress == address) = (rows.find? (·.pairAddress == address)).toList := by
  induction rows with
  | nil => rfl
  | cons row rest ih =>
    obtain ⟨other, distinct⟩ := List.nodup_cons.mp distinct
    by_cases here : row.pairAddress = address
    · have none : rest.filter (·.pairAddress == address) = [] := by
        refine List.filter_eq_nil_iff.mpr fun r later => ?_
        simpa [← here] using fun same => other (List.mem_map.mpr ⟨r, later, same⟩)
      simp [here, none]
    · simpa [here] using ih distinct

/-- Rows of one time are rows of different pairs. -/
theorem Store.distinct_pairs {s : Store} {time : Int}
    (all : ∀ r ∈ s.poolAmounts, r.Keyed ∧ r.time = time) :
    (s.poolAmounts.map (·.pairAddress)).Nodup := by
  have keys : s.poolAmounts.map PoolAmount.key =
      (s.poolAmounts.map (·.pairAddress)).map (RowKey.poolAmount time) := by
    rw [List.map_map]
    refine List.map_congr_left fun r member => ?_
    obtain ⟨keyed, same⟩ := all r member
    rw [keyed, same]
    rfl
  have distinct : (s.poolAmounts.map PoolAmount.key).Nodup := s.keyedAmounts.distinct
  rw [keys] at distinct
  exact List.Pairwise.of_map (RowKey.poolAmount time)
    (fun _ _ different same => different (congrArg _ same)) distinct

/-- Of rows of different pairs each is the latest one of its pair. -/
theorem Store.find?_latest {s : Store} (distinct : (s.poolAmounts.map (·.pairAddress)).Nodup)
    (address : String) : s.latestPoolAmounts.find? (·.pairAddress == address) =
      s.poolAmounts.find? (·.pairAddress == address) := by
  have none : Keyed.Sorted ([] : List (String × PoolAmount)) := List.Pairwise.nil
  obtain ⟨-, own, looked⟩ :=
    latestOf_lookup s.poolAmounts none (fun _ absent => nomatch absent) address
  have values : s.latestPoolAmounts.find? (·.pairAddress == address) =
    (latestOf s.poolAmounts []).lookup address := Keyed.find?_values own address
  rw [values, looked, filter_of_distinct distinct]
  cases s.poolAmounts.find? (·.pairAddress == address) with
  | none => rfl
  | some row => rfl

theorem Store.ofHistory_latest {s : Store} (distinct : (s.poolAmounts.map (·.pairAddress)).Nodup)
    (pairs : List Pair) (height : Nat) :
    Snapshot.ofHistory pairs s.latestPoolAmounts height =
      Snapshot.ofHistory pairs s.poolAmounts height := by
  unfold Snapshot.ofHistory
  simp only [find?_latest distinct]

end PoolIndexer
