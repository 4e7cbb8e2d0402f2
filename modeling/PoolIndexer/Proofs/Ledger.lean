import PoolIndexer.Proofs.Backend

/-! The part of a store that must not depend on how chunks were delivered: the rows of its append
tables, in order, and its checkpoint. -/
namespace PoolIndexer

/-- What a chunk writes without its yields. -/
def ChunkWrite.withoutAprs (w : ChunkWrite) : ChunkWrite := { w with poolAprs := [] }

/-- The append tables and the checkpoint of a store. -/
structure Ledger where
  swaps : List Swap
  changes : List LiquidityChange
  candles : List Candle
  stakes : List Stake
  earnings : List Earning
  checkpoint : Option Nat
  deriving DecidableEq, Repr

namespace Ledger

/-- The checkpoint raised to a height; a higher one stays. -/
def raise (l : Ledger) (height : Nat) : Ledger :=
  { l with checkpoint := some (max (l.checkpoint.getD 0) height) }

/-- The checkpoint is at a height or above it. -/
def Reached (l : Ledger) (height : Nat) : Prop := ∃ c, l.checkpoint = some c ∧ height ≤ c

/-- The rows of a chunk after those that are there, and the checkpoint raised to its height. -/
def append (l : Ledger) (w : ChunkWrite) : Ledger :=
  { swaps := l.swaps ++ w.swaps
    changes := l.changes ++ w.changes
    candles := l.candles ++ w.candles
    stakes := l.stakes ++ w.stakes
    earnings := l.earnings ++ w.earnings
    checkpoint := some (max (l.checkpoint.getD 0) w.newHeight) }

theorem raise_raise (l : Ledger) (height : Nat) : (l.raise height).raise height = l.raise height := by
  simp [raise]

theorem Reached.raise {l : Ledger} {height : Nat} (reached : l.Reached height) (h : Nat) :
    (l.raise h).Reached height := by
  obtain ⟨c, stored, bound⟩ := reached
  have above : height ≤ max c h := by omega
  simpa [Reached, Ledger.raise, stored] using above

theorem Reached.append {l : Ledger} {height : Nat} (reached : l.Reached height) (w : ChunkWrite) :
    (l.append w).Reached height := by
  obtain ⟨c, stored, bound⟩ := reached
  have above : height ≤ max c w.newHeight := by omega
  simpa [Reached, Ledger.append, stored] using above

theorem raise_append (l : Ledger) (w : ChunkWrite) (height : Nat) :
    (l.append w).raise height = (l.raise height).append w := by
  simp only [append, raise, Option.getD_some, Ledger.mk.injEq, true_and, Option.some.injEq]
  omega

end Ledger

namespace Store

def ledger (s : Store) : Ledger :=
  ⟨s.swaps, s.changes, s.candles, s.stakes, s.earnings, s.checkpoint⟩

theorem ledger_raiseCheckpoint (s : Store) (height : Nat) :
    (s.raiseCheckpoint height).ledger = s.ledger.raise height := by
  unfold raiseCheckpoint ledger Ledger.raise
  split
  · rename_i none
    simp [none]
  · rename_i h stored
    split
    · simp [stored]
      omega
    · simp [stored]
      omega

theorem checkpoint_raiseCheckpoint (s : Store) (height : Nat) :
    (s.raiseCheckpoint height).checkpoint = some (max (s.checkpoint.getD 0) height) :=
  congrArg Ledger.checkpoint (s.ledger_raiseCheckpoint height)

/-- Raising the checkpoint gives the one that is then stored. -/
theorem seedCheckpoint_eq (s : Store) (height : Nat) :
    s.seedCheckpoint height = (max (s.checkpoint.getD 0) height, s.raiseCheckpoint height) := by
  simp [seedCheckpoint, checkpoint_raiseCheckpoint]

theorem ledger_applyChunk (s : Store) (w : ChunkWrite) :
    (s.applyChunk w).ledger = s.ledger.append w := by
  unfold applyChunk
  rw [ledger_raiseCheckpoint]
  rfl

/-- A commit appends the rows of its chunk. -/
theorem commit_ledger {s s' : Store} {w : ChunkWrite} (committed : s.commit w = .ok s') :
    s'.ledger = s.ledger.append w := by
  unfold commit at committed
  split at committed
  · simp at committed
  · cases committed
    exact s.ledger_applyChunk w

/-- An insertion that succeeds adds the records that the rows describe. -/
theorem insert_ok {s s' : Store} {table : Table} {rows : List Json} {n : Nat}
    (inserted : s.insert table rows = .ok (n, s')) :
    ∃ batch, Batch.ofRows table rows = .ok batch ∧ n = rows.length ∧ s' = s.add batch := by
  unfold insert at inserted
  split at inserted
  · simp at inserted
  · obtain ⟨batch, read, added⟩ := Result.bind_ok.mp inserted
    cases added
    exact ⟨batch, read, rfl, rfl⟩

end Store

namespace Batch

/-- The batches of one kind of record: they are what rows of its table are read as, and without
records they add nothing. -/
structure Kind {α : Type} [Record α] (make : List α → Batch) : Prop where
  ofRows : ∀ rows, ofRows (Record.table α) rows = (decode rows).map make
  add_nil : ∀ s : Store, s.add (make []) = s

theorem swaps_kind : Kind swaps := ⟨fun _ => rfl, fun s => by simp [Store.add]⟩

theorem changes_kind : Kind changes := ⟨fun _ => rfl, fun s => by simp [Store.add]⟩

theorem candles_kind : Kind candles := ⟨fun _ => rfl, fun s => by simp [Store.add]⟩

theorem stakes_kind : Kind stakes := ⟨fun _ => rfl, fun s => by simp [Store.add]⟩

theorem earnings_kind : Kind earnings := ⟨fun _ => rfl, fun s => by simp [Store.add]⟩

theorem poolAmounts_kind : Kind poolAmounts := ⟨fun _ => rfl, fun _ => rfl⟩

theorem poolAprs_kind : Kind poolAprs := ⟨fun _ => rfl, fun _ => rfl⟩

theorem pairs_kind : Kind pairs := ⟨fun _ => rfl, fun _ => rfl⟩

/-- Rows that are inserted into the table of a kind are added as records of this kind. -/
theorem Kind.insert_ok {α : Type} [Record α] {make : List α → Batch} (kind : Kind make)
    {s s' : Store} {rows : List Json} {n : Nat}
    (inserted : s.insert (Record.table α) rows = .ok (n, s')) :
    ∃ records, decode rows = .ok records ∧ s' = s.add (make records) := by
  obtain ⟨batch, read, -, rfl⟩ := Store.insert_ok inserted
  rw [kind.ofRows] at read
  obtain ⟨records, decoded, rfl⟩ := Result.map_ok.mp read
  exact ⟨records, decoded, rfl⟩

end Batch

/-- The tables whose rows have a key. -/
def keyedTables : List Table := [PairRow.table, PoolAmount.table, PoolApr.table]

/-- None of the ledger's rows are in a table whose rows have a key. -/
theorem Store.insert_ledger {s s' : Store} {table : Table} {rows : List Json} {n : Nat}
    (keyed : table ∈ keyedTables) (inserted : s.insert table rows = .ok (n, s')) :
    s'.ledger = s.ledger := by
  simp only [keyedTables, List.mem_cons, List.not_mem_nil, or_false] at keyed
  rcases keyed with rfl | rfl | rfl
  · obtain ⟨records, -, rfl⟩ := Batch.pairs_kind.insert_ok inserted
    rfl
  · obtain ⟨records, -, rfl⟩ := Batch.poolAmounts_kind.insert_ok inserted
    rfl
  · obtain ⟨records, -, rfl⟩ := Batch.poolAprs_kind.insert_ok inserted
    rfl

end PoolIndexer
