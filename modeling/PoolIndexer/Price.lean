import PoolIndexer.Decimal.Binary
import PoolIndexer.Decimal.Reader
import PoolIndexer.Operation
import PoolIndexer.Snapshot

/-!
Prices. A pair is priced by a simulated swap against its pool, and every asset by way of the hub
asset in USDT.
-/
namespace PoolIndexer

/-- The base units offered in a simulated swap; prices are scaled by it. -/
def simulatedOffer : Int := 10000000

/-- Commission rates count in millionths. -/
def commissionScale : Int := 1000000

/-- The quote units that a pool returns for the simulated offer after commission:
`(quote - base * quote / (base + offer)) * (1 - commission)`, with divisions cut towards zero. -/
def simulatedReturn (base quote : Int) (commission : Decimal) : Except ArithmeticError Int :=
  if base + simulatedOffer = 0 then .error .divisionByZero
  else
    let returned := quote - (base * quote).tdiv (base + simulatedOffer)
    let taken := (commission.mul (.ofInt commissionScale)).truncate
    .ok ((returned * (commissionScale - taken)).tdiv commissionScale)

/-- The side of a pair that a ratio prices. -/
inductive RatioDirection
  | baseInQuote
  | quoteInBase
  deriving DecidableEq, Repr

/-- The price of one asset of a pair in the other, 0 where the pool lacks one of them. A commission
rate that is no number counts as none. -/
def pairRatio (pair : Pair) (pool : Pool) (direction : RatioDirection) :
    Except ArithmeticError Binary64 := do
  let (base, quote) := pool.reserves pair
  if base = 0 ∨ quote = 0 then return .zero
  let commission := (Decimal.parse? pair.commissionRate).getD .zero
  let price := Decimal.displayRatio (← simulatedReturn base quote commission) simulatedOffer
  match direction with
  | .baseInQuote => return price
  | .quoteInBase => return if Binary64.lt .zero price then Binary64.one.div price else .zero

/-- What an amount is worth at a price, to the nearest unit; nothing where the price is no
number. -/
def valueAt (amount : Int) (price : Binary64) : Int :=
  match price.toDecimal? with
  | some p => if p.isZero then 0 else ((Decimal.ofInt amount).mul p).round
  | none => 0

/-- The prices in USDT that a list of pairs and their pools define. -/
structure PriceBook where
  usdt : String
  hub : String
  hubPrice : Binary64
  /-- The assets other than USDT and the hub. -/
  others : List (String × Binary64)
  deriving DecidableEq, Repr

namespace PriceBook

/-- The price of the hub in another asset or of that asset in the hub, whichever is `denom`; 0
where the pair has no pool. -/
def ratioOf (pools : Snapshot) (pair : Pair) (denom : String) : Except ArithmeticError Binary64 :=
  match pools.get? pair.address with
  | some pool =>
    pairRatio pair pool (if pair.base.denom = denom then .baseInQuote else .quoteInBase)
  | none => .ok .zero

/-- The price of the hub: that of the first pair of hub and USDT. -/
def hubPriceOf (hub usdt : String) (pairs : List Pair) (pools : Snapshot) :
    Except ArithmeticError Binary64 :=
  match findByDenoms pairs hub usdt with
  | some pair => ratioOf pools pair hub
  | none => .ok .zero

/-- The price of an asset: that of the first pair of it and the hub, times the price of the hub. -/
def priceViaHub (hub : String) (hubPrice : Binary64) (pairs : List Pair) (pools : Snapshot)
    (denom : String) : Except ArithmeticError Binary64 :=
  match findByDenoms pairs denom hub with
  | some pair =>
    match pools.get? pair.address with
    | some pool => do
      let direction := if pair.base.denom = hub then .quoteInBase else .baseInQuote
      return (← pairRatio pair pool direction).mul hubPrice
    | none => .ok (Binary64.zero.mul hubPrice)
  | none => .ok .zero

def resolve (hub usdt : String) (pairs : List Pair) (pools : Snapshot) :
    Except ArithmeticError PriceBook := do
  let hubPrice ← hubPriceOf hub usdt pairs pools
  let denoms := ((pairs.flatMap (·.assetInfos)).map (·.denom)).filter fun d => d != usdt && d != hub
  let others ← denoms.eraseDups.mapM fun denom => do
    return (denom, ← priceViaHub hub hubPrice pairs pools denom)
  return { usdt, hub, hubPrice, others }

/-- The price of an asset in USDT: 1 for USDT itself, 0 for an asset without a price. -/
def price (book : PriceBook) (denom : String) : Binary64 :=
  if denom = book.usdt then .one
  else if denom = book.hub then book.hubPrice
  else (book.others.lookup denom).getD .zero

/-- The price as an exact decimal, 0 where it is no number. -/
def exactPrice (book : PriceBook) (denom : String) : Decimal :=
  ((book.price denom).toDecimal?).getD .zero

/-- Both reserves of a pool valued in USDT. -/
def liquidity (book : PriceBook) (pool : Pool) : Decimal :=
  Decimal.sum (pool.assets.map fun a => (Decimal.ofInt a.amount).mul (book.exactPrice a.info.denom))

/-- The value in USDT of one liquidity token of a pool, 0 where there is none. -/
def sharePrice (book : PriceBook) (pool : Pool) : Binary64 :=
  if pool.totalShare = 0 then .zero
  else
    match (book.liquidity pool).div (.ofInt pool.totalShare) with
    | .ok value => value.displayValue
    | .error _ => .zero

/-- The value of an amount of an asset. -/
def value (book : PriceBook) (amount : Int) (denom : String) : Int :=
  valueAt amount (book.price denom)

end PriceBook

/-! ## Valued operations -/

def Swap.valued (book : PriceBook) (op : Swap) : Swap :=
  { op with
    volumeUsdt := book.value op.offerAmount op.offerDenom
    commissionUsdt := book.value op.commissionAmount op.askDenom }

/-- A stake is worth what its liquidity tokens are worth in their pair. -/
def Stake.valued (book : PriceBook) (pairs : List Pair) (pools : Snapshot) (op : Stake) : Stake :=
  let price := match (findByLiquidityToken pairs op.token).bind fun p => pools.get? p.address with
    | some pool => book.sharePrice pool
    | none => .zero
  { op with valueUsdt := valueAt op.amount price }

def Earning.valued (book : PriceBook) (op : Earning) : Earning :=
  { op with valueUsdt := book.value op.amount op.rewardDenom }

end PoolIndexer
