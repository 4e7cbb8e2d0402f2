import PoolIndexer.Apr
import PoolIndexer.Candle
import PoolIndexer.Registry
import PoolIndexer.Snapshot

/-!
Everything that one chunk of blocks adds to a store, and the batches it is written in.
-/
namespace PoolIndexer

/-- The rows of a chunk and the height up to which it reaches. -/
structure ChunkWrite where
  newHeight : Nat
  swaps : List Swap := []
  changes : List LiquidityChange := []
  candles : List Candle := []
  stakes : List Stake := []
  earnings : List Earning := []
  poolAmounts : List PoolAmount := []
  poolAprs : List PoolApr := []
  deriving DecidableEq, Repr, Inhabited

namespace ChunkWrite

def recordCount (w : ChunkWrite) : Nat :=
  w.swaps.length + w.changes.length + w.candles.length + w.stakes.length + w.earnings.length
    + w.poolAmounts.length + w.poolAprs.length

/-- A list of records as JSON. -/
def recordsJson {α : Type} [Record α] (records : List α) : Json := .arr (records.map Record.toJson)

def toJson (w : ChunkWrite) : Json := .obj
  [("new_height", .int w.newHeight), ("swap_ops", recordsJson w.swaps),
   ("liquidity_ops", recordsJson w.changes), ("candles", recordsJson w.candles),
   ("staking_ops", recordsJson w.stakes), ("earning_ops", recordsJson w.earnings),
   ("pool_amounts", recordsJson w.poolAmounts), ("pool_aprs", recordsJson w.poolAprs),
   ("record_count", .int w.recordCount)]

/-- The checked rows of records, or nothing for no records. -/
def batch {α : Type} [Record α] (records : List α) :
    Except ValidationError (List (Table × List Row)) :=
  match records with
  | [] => .ok []
  | records => do return [(Record.table α, ← Record.rows records)]

/-- The checked batches of a chunk in the order in which they are written. -/
def validatedBatches (w : ChunkWrite) : Except ValidationError (List (Table × List Row)) := do
  let swaps ← batch w.swaps
  let changes ← batch w.changes
  let candles ← batch w.candles
  let stakes ← batch w.stakes
  let earnings ← batch w.earnings
  let poolAmounts ← batch w.poolAmounts
  let poolAprs ← batch w.poolAprs
  return swaps ++ changes ++ candles ++ stakes ++ earnings ++ poolAmounts ++ poolAprs

end ChunkWrite

/-- Every table that a store knows. -/
def allTables : List Table :=
  [Swap.table, LiquidityChange.table, Candle.table, Stake.table, Earning.table, PoolAmount.table,
   PoolApr.table, PairRow.table]

/-- The table of a name. -/
def tableNamed? (name : String) : Option Table := allTables.find? (·.name == name)

end PoolIndexer
