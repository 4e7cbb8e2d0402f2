import PoolIndexer.Decimal.Binary
import PoolIndexer.Operation
import PoolIndexer.Snapshot

/-!
Replaying operations over the reserves of a snapshot.

Every pair has a ledger of its own, which starts from the snapshot and which only events of that
pair change. No amount falls below zero.
-/
namespace PoolIndexer

/-! ## What a pool holds after each change of liquidity -/

/-- What the pool of a pair holds of the two assets of its first operation. -/
abbrev Holdings := Int × Int

/-- The holdings that a pair's first operation finds. -/
def Snapshot.holdings (s : Snapshot) (op : LiquidityChange) : Holdings :=
  match s.get? op.pairAddress with
  | some pool => (pool.amountOf op.firstDenom, pool.amountOf op.secondDenom)
  | none => (0, 0)

/-- The holdings after an operation. -/
def LiquidityChange.apply (op : LiquidityChange) (held : Holdings) : Holdings :=
  match op.kind with
  | .provide => (held.1 + op.firstAmount, held.2 + op.secondAmount)
  | .withdraw => (monus held.1 op.firstAmount, monus held.2 op.secondAmount)

/-- Gives every operation the holdings of its pair right after it. -/
def accumulateHoldings (s : Snapshot) (ops : List LiquidityChange) : List LiquidityChange :=
  go [] ops
where
  go (running : List (String × Holdings)) : List LiquidityChange → List LiquidityChange
    | [] => []
    | op :: rest =>
      let held := op.apply ((running.lookup op.pairAddress).getD (s.holdings op))
      { op with firstHeld := held.1, secondHeld := held.2 }
        :: go (Keyed.insert op.pairAddress held running) rest

/-! ## The history of reserves -/

/-- The reserves of a pair and its supply of shares. -/
structure Reserves where
  base : Int
  quote : Int
  share : Int
  deriving DecidableEq, Repr, Inhabited

namespace Reserves

def ofSnapshot (s : Snapshot) (pair : Pair) (address : String) : Reserves :=
  match s.get? address with
  | some pool => ⟨(pool.reserves pair).1, (pool.reserves pair).2, pool.totalShare⟩
  | none => ⟨0, 0, 0⟩

/-- Changes the reserve of a denomination; one that the pair does not hold changes nothing. -/
def change (r : Reserves) (pair : Pair) (denom : String) (f : Int → Int) : Reserves :=
  if pair.base.denom = denom then { r with base := f r.base }
  else if pair.quote.denom = denom then { r with quote := f r.quote }
  else r

def deposit (r : Reserves) (pair : Pair) (denom : String) (amount : Int) : Reserves :=
  r.change pair denom (· + amount)

def withdraw (r : Reserves) (pair : Pair) (denom : String) (amount : Int) : Reserves :=
  r.change pair denom (monus · amount)

/-- The reserves after an event of the pair. -/
def apply (r : Reserves) (pair : Pair) : Event → Reserves
  | .swap op =>
    (r.deposit pair op.offerDenom op.offerAmount).withdraw pair op.askDenom op.returnAmount
  | .liquidity op =>
    match op.kind with
    | .provide =>
      let r := (r.deposit pair op.firstDenom op.firstAmount).deposit pair op.secondDenom
        op.secondAmount
      { r with share := r.share + op.share }
    | .withdraw =>
      let r := (r.withdraw pair op.firstDenom op.firstAmount).withdraw pair op.secondDenom
        op.secondAmount
      { r with share := monus r.share op.share }
  | .stake _ => r
  | .earn _ => r

end Reserves

/-- The address of the pair whose pool an event changes. -/
def Event.poolAddress? : Event → Option String
  | .swap op => some op.pairAddress
  | .liquidity op => some op.pairAddress
  | .stake _ => none
  | .earn _ => none

/-- Puts a row in the place of the one with its key, or after all others. -/
def putRow (row : PoolAmount) : List PoolAmount → List PoolAmount
  | [] => [row]
  | r :: rest => if r.key = row.key then row :: rest else r :: putRow row rest

/-- How far a replay has come: the reserves of every pair met, and the rows written. -/
structure Replay where
  reserves : List (String × Reserves) := []
  rows : List PoolAmount := []
  deriving Repr, Inhabited

namespace Replay

/-- One event: events without a pool and those of unknown pairs change nothing. -/
def step (pairs : List Pair) (s : Snapshot) (state : Replay) (event : Event) : Replay :=
  match event.poolAddress? with
  | none => state
  | some address =>
    match findByAddress pairs address with
    | none => state
    | some pair =>
      let before := (state.reserves.lookup address).getD (.ofSnapshot s pair address)
      let after := before.apply pair event
      let row := {
        key := RowKey.poolAmount event.time address
        pairAddress := address
        base := after.base
        quote := after.quote
        share := after.share
        height := event.height
        time := event.time }
      ⟨Keyed.insert address after state.reserves, putRow row state.rows⟩

end Replay

/-- One row for each pair and time that events changed its pool at, with the reserves after the
last of them. -/
def poolHistory (events : List Event) (pairs : List Pair) (s : Snapshot) : List PoolAmount :=
  (events.foldl (Replay.step pairs s) {}).rows

end PoolIndexer
