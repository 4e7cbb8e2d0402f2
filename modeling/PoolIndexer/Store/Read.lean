import PoolIndexer.Store

/-!
What is read from a store: latest reserves, volumes, candles, overviews and the totals of an
address.
-/
namespace PoolIndexer

/-- The volume of a pair within a bucket of time. -/
structure Volume where
  time : Int
  pair : String
  base : Int
  quote : Int
  deriving DecidableEq, Repr

/-- The present state of a pool, with its swap volume of the last day and its fees of the last
seven days in millionths of USDT. -/
structure PoolOverview where
  pair : PairRow
  base : Int
  quote : Int
  share : Int
  apr : Binary64
  dayVolume : Int
  weekFees : Int
  deriving DecidableEq, Repr

/-- What an address staked or earned in a denomination, with its value in millionths of USDT. -/
structure DenomTotal where
  denom : String
  amount : Int
  valueUsdt : Int
  deriving DecidableEq, Repr

def Volume.toJson (v : Volume) : Json := .obj
  [("time", .int v.time), ("pair", .str v.pair), ("base_volume", amountJson v.base),
   ("quote_volume", amountJson v.quote)]

def PoolOverview.toJson (o : PoolOverview) : Json := .obj
  [("pair", o.pair.toJson), ("offer_pool_amount", amountJson o.base),
   ("ask_pool_amount", amountJson o.quote), ("total_share", amountJson o.share),
   ("apr", realJson o.apr), ("volume_24h", amountJson o.dayVolume),
   ("fee_7_days", amountJson o.weekFees)]

def DenomTotal.toJson (t : DenomTotal) : Json := .obj
  [("denom", .str t.denom), ("amount", amountJson t.amount),
   ("amount_in_usdt", amountJson t.valueUsdt)]

/-- The swap exchanges two denominations, in either direction. -/
def Swap.exchanges (op : Swap) (a b : String) : Bool :=
  (op.offerDenom == a && op.askDenom == b) || (op.offerDenom == b && op.askDenom == a)

/-- The amounts of a denomination and of the other one that a swap exchanges. -/
def Swap.volumeOf (op : Swap) (base : String) : Int × Int :=
  if op.offerDenom = base then (op.offerAmount, op.returnAmount)
  else (op.returnAmount, op.offerAmount)

/-- A time lies in a window, whose ends belong to it. -/
def inWindow (start stop time : Int) : Bool := decide (start ≤ time) && decide (time ≤ stop)

/-- The greatest element by an order, and of several such the last one. -/
def lastMax? {α : Type} (notGreater : α → α → Bool) : List α → Option α :=
  List.foldl (fun best row =>
    match best with
    | some b => if notGreater b row then some row else some b
    | none => some row) none

/-- Adds a pair of amounts to the entry of a key. -/
def addAmounts {κ : Type} [LT κ] [DecidableLT κ] [DecidableEq κ] (key : κ) (amounts : Int × Int) :
    List (κ × (Int × Int)) → List (κ × (Int × Int)) :=
  Keyed.upsert key fun
    | some total => (total.1 + amounts.1, total.2 + amounts.2)
    | none => amounts

namespace Store

def pairInfos (s : Store) : List PairRow := s.pairs.map (·.2)

/-- The row of every pair that no other comes after, in the order of addresses; of several such
rows the first one. -/
def latestPoolAmounts (s : Store) : List PoolAmount :=
  (s.poolAmounts.foldl (fun latest row =>
    Keyed.upsert row.pairAddress (fun
      | some best => if best.earlier row then row else best
      | none => row) latest) []).map (·.2)

/-- The volume of two denominations in buckets of `interval` seconds within `[start, stop]`. -/
def volumes (s : Store) (base quote : String) (interval start stop : Int) : List Volume :=
  let chosen := s.swaps.filter fun op => inWindow start stop op.time && op.exchanges base quote
  let buckets := chosen.foldl (fun buckets op =>
    addAmounts (Timestamp.bucket op.time interval) (op.volumeOf base) buckets) []
  buckets.map fun (time, base', quote') =>
    { time, pair := RowKey.join [base, quote], base := base', quote := quote' }

/-- The candles of a pair in buckets of `interval` seconds within `[start, stop]`. -/
def candlesIn (s : Store) (pair : String) (interval start stop : Int) : List Candle :=
  Candle.rebucket s.candles pair interval start stop

/-- The row of a pair that no other comes after, the last one of several. -/
def latestAmountOf (s : Store) (address : String) : Option PoolAmount :=
  lastMax? (fun a b => !b.earlier a) (s.poolAmounts.filter (·.pairAddress == address))

def latestAprOf (s : Store) (address : String) : Option PoolApr :=
  lastMax? PoolApr.notLater (s.poolAprs.filter (·.pairAddress == address))

/-- The sum of amounts. -/
def sumOf (amounts : List Int) : Int := amounts.foldr (· + ·) 0

/-- The overview of a stored pair at a time. -/
def overview (s : Store) (now : Int) (pair : PairRow) : PoolOverview :=
  let dayAgo := wrap64 (now - Timestamp.day)
  let weekAgo := wrap64 (now - 7 * Timestamp.day)
  let swaps := s.swaps.filter (·.pairAddress == pair.address)
  let changes := s.changes.filter (·.pairAddress == pair.address)
  let amounts := s.latestAmountOf pair.address
  { pair
    base := (amounts.map (·.base)).getD 0
    quote := (amounts.map (·.quote)).getD 0
    share := (amounts.map (·.share)).getD 0
    apr := ((s.latestAprOf pair.address).map (·.apr)).getD .zero
    dayVolume := sumOf ((swaps.filter (decide <| dayAgo ≤ ·.time)).map (·.volumeUsdt))
    weekFees := sumOf ((swaps.filter (decide <| weekAgo ≤ ·.time)).map (·.commissionUsdt))
      + sumOf ((changes.filter (decide <| weekAgo ≤ ·.time)).map (·.fee)) }

def overviews (s : Store) (now : Int) : List PoolOverview := s.pairInfos.map (s.overview now)

/-- Totals of amounts by denomination, in the order of denominations. -/
def totals (entries : List (String × (Int × Int))) : List DenomTotal :=
  (entries.foldl (fun m (denom, amounts) => addAmounts denom amounts m) []).map
    fun (denom, amount, valueUsdt) => { denom, amount, valueUsdt }

def stakedBy (s : Store) (address : String) (start stop : Int) : List DenomTotal :=
  totals <| (s.stakes.filter fun op => op.staker == address && inWindow start stop op.time).map
    fun op => (op.token, op.amount, op.valueUsdt)

def earnedBy (s : Store) (address : String) (start stop : Int) : List DenomTotal :=
  totals <| (s.earnings.filter fun op => op.staker == address && inWindow start stop op.time).map
    fun op => (op.rewardDenom, op.amount, op.valueUsdt)

end Store
end PoolIndexer
