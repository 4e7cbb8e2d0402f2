import PoolIndexer.Proofs.KeyedRows
import PoolIndexer.Proofs.Ledger
import PoolIndexer.Proofs.PoolAmount
import PoolIndexer.Proofs.Replay

/-! What a store keeps of the reserves of pairs: the rows that a write adds to it, and the row that
is the latest of a pair. -/
namespace PoolIndexer

/-! ## Adding rows -/

section

variable {rows old : List PoolAmount} {row r : PoolAmount}

/-- The key of a row is not taken by any of the old rows. -/
def Fresh (old : List PoolAmount) (row : PoolAmount) : Prop := ∀ o ∈ old, o.key ≠ row.key

theorem mem_addNew :
    r ∈ addNew PoolAmount.key old row ↔ r ∈ old ∨ r = row ∧ Fresh old row := by
  unfold addNew Fresh
  split
  · rename_i taken
    simp only [List.any_eq_true, beq_iff_eq] at taken
    constructor
    · exact .inl
    · rintro (present | ⟨_, fresh⟩)
      · exact present
      · obtain ⟨o, member, same⟩ := taken
        exact absurd same (fresh o member)
  · rename_i free
    have fresh : ∀ o ∈ old, o.key ≠ row.key := by simpa using free
    rw [List.mem_append, List.mem_singleton, and_iff_left fresh]

theorem mem_of_mem_foldl_addNew (member : r ∈ rows.foldl (addNew PoolAmount.key) old) :
    r ∈ old ∨ r ∈ rows := by
  induction rows generalizing old with
  | nil => exact .inl member
  | cons row rest ih =>
    rcases ih member with added | later
    · rcases mem_addNew.mp added with present | ⟨rfl, _⟩
      · exact .inl present
      · exact .inr List.mem_cons_self
    · exact .inr (List.mem_cons_of_mem _ later)

/-- Of rows with different keys those are added whose key is not there. -/
theorem mem_foldl_addNew (distinct : DistinctKeys rows) :
    r ∈ rows.foldl (addNew PoolAmount.key) old ↔ r ∈ old ∨ r ∈ rows ∧ Fresh old r := by
  induction rows generalizing old with
  | nil => simp
  | cons row rest ih =>
    obtain ⟨first, others⟩ := List.pairwise_cons.mp distinct
    rw [List.foldl_cons, ih others, mem_addNew, List.mem_cons]
    constructor
    · rintro ((present | ⟨rfl, fresh⟩) | ⟨later, fresh⟩)
      · exact .inl present
      · exact .inr ⟨.inl rfl, fresh⟩
      · exact .inr ⟨.inr later, fun o member => fresh o (mem_addNew.mpr (.inl member))⟩
    · rintro (present | ⟨rfl | later, fresh⟩)
      · exact .inl (.inl present)
      · exact .inl (.inr ⟨rfl, fresh⟩)
      · refine .inr ⟨later, fun o member => ?_⟩
        rcases mem_addNew.mp member with present | ⟨rfl, _⟩
        · exact fresh o present
        · exact first r later

end

/-! ## The latest row -/

namespace PoolAmount

theorem earlier_iff {a b : PoolAmount} :
    a.earlier b ↔ a.height < b.height ∨ (a.height = b.height ∧ a.time < b.time) := by
  simp [earlier]

/-- The later one of a row and the best one before it. -/
def best (row : PoolAmount) : Option PoolAmount → PoolAmount
  | some best => if best.earlier row then row else best
  | none => row

/-- The first of the rows that no other comes after. -/
def latest? (rows : List PoolAmount) : Option PoolAmount :=
  rows.foldl (fun best row => some (row.best best)) none

theorem foldl_best (rows : List PoolAmount) (first : PoolAmount) :
    ∃ row, rows.foldl (fun best row => some (row.best best)) (some first) = some row ∧
      row ∈ first :: rows ∧ ∀ other ∈ first :: rows, ¬ row.earlier other := by
  induction rows generalizing first with
  | nil => exact ⟨first, rfl, List.mem_singleton_self first, by simp [earlier_iff]⟩
  | cons next rest ih =>
    obtain ⟨row, folded, member, latest⟩ := ih (next.best (some first))
    refine ⟨row, folded, ?_, ?_⟩
    · rcases List.mem_cons.mp member with rfl | later
      · by_cases before : first.earlier next <;> simp [best, before]
      · exact List.mem_cons_of_mem _ (List.mem_cons_of_mem _ later)
    · obtain ⟨aboveBest, aboveRest⟩ := List.forall_mem_cons.mp latest
      rw [List.forall_mem_cons, List.forall_mem_cons]
      refine ⟨?_, ?_, aboveRest⟩
      · by_cases before : first.earlier next
        · have ordered := earlier_iff.mp before
          simp only [best, before, if_true, earlier_iff] at aboveBest ⊢
          omega
        · simpa [best, before] using aboveBest
      · by_cases before : first.earlier next
        · simpa [best, before] using aboveBest
        · have ordered := mt earlier_iff.mpr before
          simp only [best, before, Bool.false_eq_true, if_false, earlier_iff] at aboveBest ⊢
          omega

theorem latest?_of_ne_nil {rows : List PoolAmount} (filled : rows ≠ []) :
    ∃ row, latest? rows = some row ∧ row ∈ rows ∧ ∀ other ∈ rows, ¬ row.earlier other := by
  cases rows with
  | nil => exact absurd rfl filled
  | cons first rest => exact foldl_best rest first

end PoolAmount

/-- The latest rows by pair, as they are found one after the other. -/
def latestOf (rows : List PoolAmount) (latest : List (String × PoolAmount)) :
    List (String × PoolAmount) :=
  rows.foldl (fun latest row => Keyed.upsert row.pairAddress row.best latest) latest

/-- What is found for a pair is the latest one of its rows: entries of other pairs are not touched
on the way, as each lies under the address of its own rows. -/
theorem latestOf_lookup (rows : List PoolAmount) {latest : List (String × PoolAmount)}
    (sorted : Keyed.Sorted latest) (own : ∀ entry ∈ latest, entry.2.pairAddress = entry.1)
    (address : String) :
    Keyed.Sorted (latestOf rows latest) ∧
      (∀ entry ∈ latestOf rows latest, entry.2.pairAddress = entry.1) ∧
      (latestOf rows latest).lookup address =
        (rows.filter (·.pairAddress == address)).foldl (fun best row => some (row.best best))
          (latest.lookup address) := by
  induction rows generalizing latest with
  | nil => exact ⟨sorted, own, rfl⟩
  | cons row rest ih =>
    have sortedNext : Keyed.Sorted (Keyed.upsert row.pairAddress row.best latest) :=
      Keyed.sorted_upsert sorted row.best
    have ownNext : ∀ entry ∈ Keyed.upsert row.pairAddress row.best latest,
        entry.2.pairAddress = entry.1 := by
      refine Keyed.forall_upsert own rfl fun best same => ?_
      by_cases before : best.earlier row
      · simp [PoolAmount.best, before]
      · simpa [PoolAmount.best, before] using same
    obtain ⟨sortedLast, ownLast, found⟩ := ih sortedNext ownNext
    refine ⟨sortedLast, ownLast, ?_⟩
    change (latestOf rest _).lookup address = _
    rw [found]
    by_cases here : row.pairAddress = address
    · subst here
      simp [Keyed.lookup_upsert_self sorted]
    · simp [here, Keyed.lookup_upsert_ne (Ne.symm here)]

namespace Store

/-- What is latest of a pair is the latest one of its rows, if it has any. -/
theorem latestPoolAmounts_filter (s : Store) (address : String) :
    s.latestPoolAmounts.filter (·.pairAddress == address) =
      (PoolAmount.latest? (s.poolAmounts.filter (·.pairAddress == address))).toList := by
  have none : Keyed.Sorted ([] : List (String × PoolAmount)) := List.Pairwise.nil
  -- `latestPoolAmounts` runs over the rows of all pairs; the lookup splits off those of this one
  obtain ⟨sorted, own, found⟩ :=
    latestOf_lookup s.poolAmounts none (fun _ absent => nomatch absent) address
  exact (Keyed.values_filter sorted own address).trans (congrArg Option.toList found)

/-- A pair with rows has one latest row, which no other of its rows comes after. -/
theorem latestPoolAmounts_row {s : Store} {address : String} {row : PoolAmount}
    (stored : row ∈ s.poolAmounts) (its : row.pairAddress = address) :
    ∃ latest, s.latestPoolAmounts.filter (·.pairAddress == address) = [latest] ∧
      latest ∈ s.poolAmounts ∧ latest.pairAddress = address ∧
      ∀ other ∈ s.poolAmounts, other.pairAddress = address → ¬ latest.earlier other := by
  have filled : s.poolAmounts.filter (·.pairAddress == address) ≠ [] :=
    List.ne_nil_of_mem (List.mem_filter.mpr ⟨stored, by simpa using its⟩)
  obtain ⟨latest, is, member, above⟩ := PoolAmount.latest?_of_ne_nil filled
  obtain ⟨among, same⟩ := List.mem_filter.mp member
  refine ⟨latest, ?_, among, by simpa using same, fun other stored its => ?_⟩
  · rw [latestPoolAmounts_filter, is]
    rfl
  · exact above other (List.mem_filter.mpr ⟨stored, by simpa using its⟩)

/-! ## Writes -/

/-- Every row of reserves has its key and lies at the checkpoint or below it. -/
def Recorded (s : Store) : Prop :=
  ∀ row ∈ s.poolAmounts, row.Keyed ∧ s.ledger.Reached row.height

/-- Rows may be added that have their keys and lie at the checkpoint or below it. -/
theorem Recorded.add {s s' : Store} (recorded : s.Recorded) (rows : List PoolAmount)
    (added : s'.poolAmounts = rows.foldl (addNew PoolAmount.key) s.poolAmounts)
    (kept : ∀ {height}, s.ledger.Reached height → s'.ledger.Reached height)
    (within : ∀ row ∈ rows, row.Keyed ∧ s'.ledger.Reached row.height) : s'.Recorded := by
  intro row member
  rw [added] at member
  rcases mem_of_mem_foldl_addNew member with present | new
  · exact ⟨(recorded row present).1, kept (recorded row present).2⟩
  · exact within row new

theorem Recorded.of_same {s s' : Store} (recorded : s.Recorded)
    (same : s'.poolAmounts = s.poolAmounts)
    (kept : ∀ {height}, s.ledger.Reached height → s'.ledger.Reached height) : s'.Recorded :=
  recorded.add [] same kept fun _ absent => nomatch absent

theorem raiseCheckpoint_poolAmounts (s : Store) (height : Nat) :
    (s.raiseCheckpoint height).poolAmounts = s.poolAmounts := by
  unfold raiseCheckpoint
  split
  · rfl
  · split <;> rfl

theorem Recorded.raiseCheckpoint {s : Store} (recorded : s.Recorded) (height : Nat) :
    (s.raiseCheckpoint height).Recorded := by
  refine recorded.of_same (s.raiseCheckpoint_poolAmounts height) fun reached => ?_
  rw [ledger_raiseCheckpoint]
  exact reached.raise height

theorem commit_poolAmounts {s s' : Store} {w : ChunkWrite} (committed : s.commit w = .ok s') :
    s'.poolAmounts = w.poolAmounts.foldl (addNew PoolAmount.key) s.poolAmounts := by
  unfold commit at committed
  split at committed
  · cases committed
  · cases committed
    exact (raiseCheckpoint_poolAmounts _ _).trans (KeyedRows.rows_foldl_upsert _ _)

theorem Recorded.commit {s s' : Store} {w : ChunkWrite} (recorded : s.Recorded)
    (committed : s.commit w = .ok s')
    (within : ∀ row ∈ w.poolAmounts, row.Keyed ∧ row.height ≤ w.newHeight) : s'.Recorded := by
  have ledger := commit_ledger committed
  refine recorded.add w.poolAmounts (commit_poolAmounts committed) (fun reached => ?_) fun row member => ?_
  · rw [ledger]
    exact reached.append w
  · refine ⟨(within row member).1, max (s.checkpoint.getD 0) w.newHeight, ?_, ?_⟩
    · rw [ledger]
      rfl
    · have bound := (within row member).2
      omega

theorem insert_poolAmounts {s s' : Store} {rows : List PoolAmount} {n : Nat}
    (inserted : s.insert PoolAmount.table (rows.map Record.toJson) = .ok (n, s')) :
    s'.poolAmounts = rows.foldl (addNew PoolAmount.key) s.poolAmounts := by
  obtain ⟨records, decoded, rfl⟩ := Batch.poolAmounts_kind.insert_ok inserted
  rw [PoolAmount.decode_toJson decoded]
  exact KeyedRows.rows_foldl_upsert _ _

/-- Pairs and yields are no rows of reserves. -/
theorem insert_other {s s' : Store} {table : Table} {rows : List Json} {n : Nat}
    (other : table = PairRow.table ∨ table = PoolApr.table)
    (inserted : s.insert table rows = .ok (n, s')) : s'.poolAmounts = s.poolAmounts := by
  rcases other with rfl | rfl
  · obtain ⟨records, -, rfl⟩ := Batch.pairs_kind.insert_ok inserted
    rfl
  · obtain ⟨records, -, rfl⟩ := Batch.poolAprs_kind.insert_ok inserted
    rfl

end Store
end PoolIndexer
