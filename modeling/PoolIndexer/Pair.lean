import PoolIndexer.Asset
import PoolIndexer.Decimal

/-!
Trading pairs, their pools, and the snapshot of all pools at one height.
-/
namespace PoolIndexer

/-- A pair contract of the exchange. The price of a pair is what one unit of its base asset costs
in its quote asset. -/
structure Pair where
  base : AssetInfo
  quote : AssetInfo
  address : String
  liquidityToken : String
  oracle : String := ""
  commissionRate : String := "0.003"
  deriving DecidableEq, Repr, Inhabited

/-- Reserves and share supply of a pair. -/
structure Pool where
  assets : List Asset
  totalShare : Int
  deriving DecidableEq, Repr, Inhabited

namespace Pair

def assetInfos (p : Pair) : List AssetInfo := [p.base, p.quote]

/-- The name that candles carry. -/
def name (p : Pair) : String := p.base.denom ++ "-" ++ p.quote.denom

/-- The two denominations, in either order, are those of the pair. -/
def trades (p : Pair) (a b : String) : Bool :=
  (p.base.denom == a && p.quote.denom == b) || (p.base.denom == b && p.quote.denom == a)

def toJson (p : Pair) : Json := .obj
  [("asset_infos", assetInfosJson p.base p.quote), ("contract_addr", .str p.address),
   ("liquidity_token", .str p.liquidityToken), ("oracle_addr", .str p.oracle),
   ("commission_rate", .str p.commissionRate)]

def ofDocument? (origin : Document.Origin) (d : Document) : Option Pair :=
  let names := ["asset_infos", "contract_addr", "liquidity_token", "oracle_addr",
    "commission_rate"]
  match d.fields? names with
  | some [some infos, some address, some token, oracle, rate] => do
    let (base, quote) ← assetInfoPair? origin infos
    let address ← address.text?
    let liquidityToken ← token.text?
    let oracle ← orDefault Document.text? "" oracle
    let commissionRate ← orDefault Document.text? "0.003" rate
    return { base, quote, address, liquidityToken, oracle, commissionRate }
  | _ => none

end Pair

def findByDenoms (pairs : List Pair) (a b : String) : Option Pair := pairs.find? (·.trades a b)

def findByAddress (pairs : List Pair) (address : String) : Option Pair :=
  pairs.find? (·.address == address)

def findByLiquidityToken (pairs : List Pair) (token : String) : Option Pair :=
  pairs.find? (·.liquidityToken == token)

namespace Pool

/-- The pool of a pair that did not exist yet. -/
def empty (base quote : AssetInfo) : Pool := ⟨[⟨base, 0⟩, ⟨quote, 0⟩], 0⟩

/-- The reserve of a denomination, zero if the pool does not hold it. -/
def amountOf (pool : Pool) (denom : String) : Int :=
  ((pool.assets.find? (·.info.denom == denom)).map (·.amount)).getD 0

/-- The reserves of a pair's two assets, base before quote. -/
def reserves (pool : Pool) (pair : Pair) : Int × Int :=
  (pool.amountOf pair.base.denom, pool.amountOf pair.quote.denom)

def toJson (pool : Pool) : Json := .obj
  [("assets", .arr (pool.assets.map Asset.toJson)), ("total_share", amountJson pool.totalShare)]

def ofDocument? (origin : Document.Origin) (d : Document) : Option Pool :=
  match d.fields? ["assets", "total_share"] with
  | some [some assets, some share] => do
    let assets ← assets.list? (Asset.ofDocument? origin)
    let totalShare ← share.amount?
    return { assets, totalShare }
  | _ => none

end Pool
end PoolIndexer
