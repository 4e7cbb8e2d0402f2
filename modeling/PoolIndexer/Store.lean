import PoolIndexer.ChunkWrite
import PoolIndexer.Store.Error

/-!
The store held in memory: what is written to it, by the rules of every table.

Append tables keep every row. Of reserves and yields the first row of a key stays, of pairs the
last one. The checkpoint only rises. A write that fails changes nothing.
-/
namespace PoolIndexer

/-- Rows that have a key: no two of them have the same, and the keys that are taken are theirs. -/
structure KeyedRows {α : Type} (key : α → String) where
  rows : List α
  keys : List String
  taken : ∀ k, k ∈ keys ↔ ∃ row ∈ rows, key row = k
  distinct : (rows.map key).Nodup
  deriving DecidableEq, Repr

namespace KeyedRows

variable {α : Type} {key : α → String}

def empty : KeyedRows key := ⟨[], [], by simp, List.nodup_nil⟩

instance : Inhabited (KeyedRows key) := ⟨empty⟩

/-- Adds a row unless its key is taken. -/
def upsert (t : KeyedRows key) (row : α) : KeyedRows key :=
  if present : key row ∈ t.keys then t
  else {
    rows := t.rows ++ [row]
    keys := key row :: t.keys
    taken := fun k => by simp [t.taken, or_and_right, exists_or, or_comm, eq_comm]
    distinct := by
      have free : ∀ other ∈ t.rows, key other ≠ key row := fun other member same =>
        present ((t.taken _).mpr ⟨other, member, same⟩)
      simpa [List.nodup_append, t.distinct] using free }

end KeyedRows

structure Store where
  checkpoint : Option Nat := none
  /-- Pairs by address. -/
  pairs : List (String × PairRow) := []
  swaps : List Swap := []
  changes : List LiquidityChange := []
  candles : List Candle := []
  stakes : List Stake := []
  earnings : List Earning := []
  keyedAmounts : KeyedRows PoolAmount.key := .empty
  keyedAprs : KeyedRows PoolApr.key := .empty
  deriving DecidableEq, Repr, Inhabited

/-- Rows of one table as records. -/
inductive Batch
  | swaps (rows : List Swap)
  | changes (rows : List LiquidityChange)
  | candles (rows : List Candle)
  | stakes (rows : List Stake)
  | earnings (rows : List Earning)
  | poolAmounts (rows : List PoolAmount)
  | poolAprs (rows : List PoolApr)
  | pairs (rows : List PairRow)
  deriving DecidableEq, Repr

namespace Batch

/-- The records of rows, all of them or none. -/
def decode {α : Type} [Record α] (rows : List Json) : Except StorageError (List α) :=
  match rows.mapM Record.ofJson? with
  | some records => .ok records
  | none => .error .undecodable

def ofRows (table : Table) (rows : List Json) : Except StorageError Batch :=
  if table.name = Swap.table.name then (decode rows).map swaps
  else if table.name = LiquidityChange.table.name then (decode rows).map changes
  else if table.name = Candle.table.name then (decode rows).map candles
  else if table.name = Stake.table.name then (decode rows).map stakes
  else if table.name = Earning.table.name then (decode rows).map earnings
  else if table.name = PoolAmount.table.name then (decode rows).map poolAmounts
  else if table.name = PoolApr.table.name then (decode rows).map poolAprs
  else if table.name = PairRow.table.name then (decode rows).map pairs
  else .error (.unknownTable table.name)

end Batch

namespace Store

def poolAmounts (s : Store) : List PoolAmount := s.keyedAmounts.rows

def poolAprs (s : Store) : List PoolApr := s.keyedAprs.rows

/-- The checkpoint raised to a height; a higher one stays. -/
def raiseCheckpoint (s : Store) (height : Nat) : Store :=
  match s.checkpoint with
  | none => { s with checkpoint := some height }
  | some h => if h < height then { s with checkpoint := some height } else s

def addPoolAmounts (s : Store) (rows : List PoolAmount) : Store :=
  { s with keyedAmounts := rows.foldl KeyedRows.upsert s.keyedAmounts }

def addPoolAprs (s : Store) (rows : List PoolApr) : Store :=
  { s with keyedAprs := rows.foldl KeyedRows.upsert s.keyedAprs }

def putPairs (s : Store) (rows : List PairRow) : Store :=
  { s with pairs := rows.foldl (fun m row => Keyed.insert row.address row m) s.pairs }

def add (s : Store) : Batch → Store
  | .swaps rows => { s with swaps := s.swaps ++ rows }
  | .changes rows => { s with changes := s.changes ++ rows }
  | .candles rows => { s with candles := s.candles ++ rows }
  | .stakes rows => { s with stakes := s.stakes ++ rows }
  | .earnings rows => { s with earnings := s.earnings ++ rows }
  | .poolAmounts rows => s.addPoolAmounts rows
  | .poolAprs rows => s.addPoolAprs rows
  | .pairs rows => s.putPairs rows

/-- The store after a chunk. -/
def applyChunk (s : Store) (w : ChunkWrite) : Store :=
  let s := { s with
    swaps := s.swaps ++ w.swaps
    changes := s.changes ++ w.changes
    candles := s.candles ++ w.candles
    stakes := s.stakes ++ w.stakes
    earnings := s.earnings ++ w.earnings }
  ((s.addPoolAmounts w.poolAmounts).addPoolAprs w.poolAprs).raiseCheckpoint w.newHeight

/-! ## Writing -/

/-- Raises the checkpoint and tells the one that is then stored. -/
def seedCheckpoint (s : Store) (height : Nat) : Nat × Store :=
  let s := s.raiseCheckpoint height
  (s.checkpoint.getD height, s)

/-- Writes rows of a table if they fit it and are records of it; tells how many they are. -/
def insert (s : Store) (table : Table) (rows : List Json) : Except StorageError (Nat × Store) :=
  match table.validate rows with
  | .error e => .error (.refused e)
  | .ok _ => do
    let batch ← Batch.ofRows table rows
    return (rows.length, s.add batch)

/-- Writes a chunk if every batch of it fits its table. -/
def commit (s : Store) (w : ChunkWrite) : Except StorageError Store :=
  match w.validatedBatches with
  | .error e => .error (.refused e)
  | .ok _ => .ok (s.applyChunk w)

/-! ## Counting -/

def count (s : Store) (table : Table) : Except StorageError Nat :=
  if table.name = Swap.table.name then .ok s.swaps.length
  else if table.name = LiquidityChange.table.name then .ok s.changes.length
  else if table.name = Candle.table.name then .ok s.candles.length
  else if table.name = Stake.table.name then .ok s.stakes.length
  else if table.name = Earning.table.name then .ok s.earnings.length
  else if table.name = PoolAmount.table.name then .ok s.poolAmounts.length
  else if table.name = PoolApr.table.name then .ok s.poolAprs.length
  else if table.name = PairRow.table.name then .ok s.pairs.length
  else .error (.unknownTable table.name)

end Store
end PoolIndexer
