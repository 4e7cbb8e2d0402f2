import PoolIndexer.Keyed
import PoolIndexer.Pair
import PoolIndexer.RowKey
import PoolIndexer.Table

/-!
The reserves of pairs at one height, and the rows that keep their history.
-/
namespace PoolIndexer

/-- The reserves of a pair at a time: its base and quote amounts and the supply of shares. -/
structure PoolAmount where
  key : String
  pairAddress : String
  base : Int
  quote : Int
  share : Int
  height : Nat
  time : Int
  deriving DecidableEq, Repr, Inhabited

namespace PoolAmount

def table : Table where
  name := "pool_amount_history"
  columns := [⟨"unique_key", .text⟩, ⟨"pair_addr", .text⟩, ⟨"offer_pool_amount", .numeric⟩,
    ⟨"ask_pool_amount", .numeric⟩, ⟨"total_share", .numeric⟩, ⟨"height", .bigint⟩,
    ⟨"timestamp", .bigint⟩]
  mode := .ignore "unique_key"

def toJson (r : PoolAmount) : Json := .obj
  [("unique_key", .str r.key), ("pair_addr", .str r.pairAddress),
   ("offer_pool_amount", amountJson r.base), ("ask_pool_amount", amountJson r.quote),
   ("total_share", amountJson r.share), ("height", .int r.height), ("timestamp", .int r.time)]

def ofDocument? (d : Document) : Option PoolAmount :=
  match d.fields? (table.columns.map (·.name)) with
  | some [some key, some pair, some base, some quote, some share, some height, some time] => do
    return {
      key := ← key.text?
      pairAddress := ← pair.text?
      base := ← base.amount?
      quote := ← quote.amount?
      share := ← share.amount?
      height := ← height.word? 64
      time := ← time.int64? }
  | _ => none

instance : Record PoolAmount := ⟨table, toJson, ofDocument?⟩

/-- The pool of a pair that a row describes. -/
def toPool (r : PoolAmount) (pair : Pair) : Pool :=
  ⟨[⟨pair.base, r.base⟩, ⟨pair.quote, r.quote⟩], r.share⟩

/-- The first row comes before the second in the history of a pair. -/
def earlier (a b : PoolAmount) : Bool :=
  decide (a.height < b.height ∨ (a.height = b.height ∧ a.time < b.time))

end PoolAmount

/-- Pools at a height, by the address of their pair. -/
structure Snapshot where
  height : Nat
  pools : List (String × Pool)
  deriving DecidableEq, Repr, Inhabited

namespace Snapshot

def empty (height : Nat) : Snapshot := ⟨height, []⟩

def insert (s : Snapshot) (address : String) (pool : Pool) : Snapshot :=
  { s with pools := Keyed.insert address pool s.pools }

def get? (s : Snapshot) (address : String) : Option Pool := s.pools.lookup address

/-- One pool for every pair. -/
def ofPools (height : Nat) (pools : List (Pair × Pool)) : Snapshot :=
  pools.foldl (fun s (pair, pool) => s.insert pair.address pool) (empty height)

/-- The snapshot that the first row of every pair describes; a pair without rows has an empty
pool. -/
def ofHistory (pairs : List Pair) (rows : List PoolAmount) (height : Nat) : Snapshot :=
  ofPools height <| pairs.map fun pair =>
    match rows.find? (·.pairAddress == pair.address) with
    | some row => (pair, row.toPool pair)
    | none => (pair, .empty pair.base pair.quote)

/-- The snapshot after rows of known pairs: the last row of a pair counts, and the height is the
greatest one met. -/
def withHistory (s : Snapshot) (pairs : List Pair) (rows : List PoolAmount) : Snapshot :=
  rows.foldl (fun s row =>
    match findByAddress pairs row.pairAddress with
    | some pair =>
      { s.insert row.pairAddress (row.toPool pair) with height := max s.height row.height }
    | none => s) s

/-- The snapshot that answers describe, one for each pair in order; a pair without an answer has an
empty pool. -/
def ofAnswers (pairs : List Pair) (answers : List (Option Pool)) (height : Nat) : Snapshot :=
  ofPools height <| pairs.zipIdx.map fun (pair, i) =>
    (pair, ((answers[i]?).getD none).getD (.empty pair.base pair.quote))

/-- The rows that a snapshot gives rise to at a time, one for each pair it holds. -/
def initialAmounts (s : Snapshot) (pairs : List Pair) (time : Int) : List PoolAmount :=
  pairs.filterMap fun pair =>
    (s.get? pair.address).map fun pool => {
      key := RowKey.poolAmount time pair.address
      pairAddress := pair.address
      base := (pool.reserves pair).1
      quote := (pool.reserves pair).2
      share := pool.totalShare
      height := s.height
      time }

end Snapshot
end PoolIndexer
