import PoolIndexer.Price

/-!
The yearly yield of staking a pair's liquidity tokens.
-/
namespace PoolIndexer

/-- The yield of a pair's staking pool at a time, in percent. -/
structure PoolApr where
  key : String
  pairAddress : String
  supply : Int
  bond : Int
  /-- The rewards per second as a JSON list. -/
  rewards : String
  apr : Binary64
  height : Nat
  time : Int
  deriving DecidableEq, Repr, Inhabited

namespace PoolApr

def table : Table where
  name := "pool_apr"
  columns := [⟨"unique_key", .text⟩, ⟨"pair_addr", .text⟩, ⟨"total_supply", .numeric⟩,
    ⟨"total_bond_amount", .numeric⟩, ⟨"reward_per_sec", .text⟩, ⟨"apr", .double⟩,
    ⟨"height", .bigint⟩, ⟨"timestamp", .bigint⟩]
  mode := .ignore "unique_key"

def toJson (r : PoolApr) : Json := .obj
  [("unique_key", .str r.key), ("pair_addr", .str r.pairAddress),
   ("total_supply", amountJson r.supply), ("total_bond_amount", amountJson r.bond),
   ("reward_per_sec", .str r.rewards), ("apr", realJson r.apr), ("height", .int r.height),
   ("timestamp", .int r.time)]

def ofDocument? (d : Document) : Option PoolApr :=
  match d.fields? (table.columns.map (·.name)) with
  | some [some key, some pair, some supply, some bond, some rewards, some apr, some height,
      some time] => do
    return {
      key := ← key.text?
      pairAddress := ← pair.text?
      supply := ← supply.amount?
      bond := ← bond.amount?
      rewards := ← rewards.text?
      apr := ← apr.real?
      height := ← height.word? 64
      time := ← time.int64? }
  | _ => none

instance : Record PoolApr := ⟨table, toJson, ofDocument?⟩

/-- The first row comes no later than the second in the history of a pair. -/
def notLater (a b : PoolApr) : Bool :=
  decide (a.height < b.height ∨ (a.height = b.height ∧ a.time ≤ b.time))

end PoolApr

/-- The staking state of a pair that its yield depends on. -/
structure AprInput where
  pair : Pair
  supply : Int
  bond : Int
  rewardsPerSecond : List Asset
  deriving DecidableEq, Repr

def secondsPerYear : Int := 31536000

namespace AprInput

/-- The yearly rewards in USDT. -/
def yearlyRewards (input : AprInput) (book : PriceBook) : Decimal :=
  Decimal.sum <| input.rewardsPerSecond.map fun reward =>
    ((Decimal.ofInt reward.amount).mul (.ofInt secondsPerYear)).mul
      (book.exactPrice reward.info.denom)

/-- The yield in percent: yearly rewards against the bonded part of the pool's liquidity. A pool
without supply, or whose bond is worth nothing, yields nothing. -/
def apr (input : AprInput) (liquidity : Decimal) (book : PriceBook) :
    Except ArithmeticError Binary64 := do
  if input.supply = 0 then return .zero
  let bondValue ← ((Decimal.ofInt input.bond).mul liquidity).div (.ofInt input.supply)
  if bondValue.isZero then return .zero
  return (← ((Decimal.ofInt 100).mul (input.yearlyRewards book)).div bondValue).displayValue

/-- The stored row of a pair's yield. -/
def row (input : AprInput) (pools : Snapshot) (book : PriceBook) (height : Nat) (time : Int) :
    Except ArithmeticError PoolApr := do
  let liquidity := match pools.get? input.pair.address with
    | some pool => book.liquidity pool
    | none => .zero
  let apr ← input.apr liquidity book
  let rewards := (Json.arr (input.rewardsPerSecond.map Asset.toJson)).compact
  return {
    key := RowKey.poolApr time input.pair.address input.supply input.bond rewards apr
    pairAddress := input.pair.address
    supply := input.supply
    bond := input.bond
    rewards, apr, height, time }

end AprInput

/-- Rows for the pairs whose inputs could be had. -/
def aprRows (inputs : List AprInput) (pools : Snapshot) (book : PriceBook) (height : Nat)
    (time : Int) : Except ArithmeticError (List PoolApr) :=
  inputs.mapM fun input => input.row pools book height time

end PoolIndexer
