import PoolIndexer.Pair
import PoolIndexer.Json.Printer

/-!
The queries that contracts of the exchange answer, as JSON texts, and the forms of their answers.
-/
namespace PoolIndexer

inductive ContractQuery
  | tokenInfo
  | pool
  | poolInfo (token : String)
  | rewardsPerSec (token : String)
  /-- The pairs of a factory after a given one, at most `limit` of them. -/
  | pairs (startAfter : Option (AssetInfo × AssetInfo)) (limit : Option Nat)
  /-- Several queries at once, each as the contract asked and the encoded query. -/
  | aggregate (calls : List (String × String))
  deriving DecidableEq, Repr

namespace ContractQuery

def toJson : ContractQuery → Json
  | .tokenInfo => .obj [("token_info", .obj [])]
  | .pool => .obj [("pool", .obj [])]
  | .poolInfo token => .obj [("pool_info", .obj [("staking_token", .str token)])]
  | .rewardsPerSec token => .obj [("rewards_per_sec", .obj [("staking_token", .str token)])]
  | .pairs startAfter limit =>
    let start := match startAfter with
      | some (base, quote) => [("start_after", assetInfosJson base quote)]
      | none => []
    let limit := match limit with
      | some n => Json.int n
      | none => .null
    .obj [("pairs", .obj (start ++ [("limit", limit)]))]
  | .aggregate calls =>
    let queries := calls.map fun (address, data) =>
      Json.obj [("address", .str address), ("data", .str data)]
    .obj [("aggregate", .obj [("queries", .arr queries)])]

def text (q : ContractQuery) : String := q.toJson.compact

end ContractQuery

structure TokenInfo where
  name : String
  symbol : String
  decimals : Nat
  totalSupply : Int
  deriving DecidableEq, Repr

def TokenInfo.ofDocument? (d : Document) : Option TokenInfo :=
  match d.fields? ["name", "symbol", "decimals", "total_supply"] with
  | some [name, symbol, decimals, some supply] => do
    let name ← orDefault Document.text? "" name
    let symbol ← orDefault Document.text? "" symbol
    let decimals ← orDefault (Document.word? 8) 0 decimals
    let totalSupply ← supply.amount?
    return { name, symbol, decimals, totalSupply }
  | _ => none

/-- The staking pool of a liquidity token: the token and how much of it is bonded. -/
structure StakingPool where
  token : String
  totalBond : Int
  deriving DecidableEq, Repr

def StakingPool.ofDocument? (d : Document) : Option StakingPool :=
  match d.fields? ["staking_token", "total_bond_amount"] with
  | some [some token, some bond] => do
    let token ← token.text?
    let totalBond ← bond.amount?
    return { token, totalBond }
  | _ => none

/-- A structure of one field that holds a list. -/
def soleList? {α : Type} (name : String) (item? : Document → Option α) (d : Document) :
    Option (List α) :=
  match d.fields? [name] with
  | some [some items] => items.list? item?
  | _ => none

def rewards? : Document → Option (List Asset) := soleList? "assets" (Asset.ofDocument? .text)

def pairs? : Document → Option (List Pair) := soleList? "pairs" (Pair.ofDocument? .text)

/-- One answer among several: whether the query succeeded, and its encoded answer. -/
structure CallResult where
  success : Bool
  data : String
  deriving DecidableEq, Repr

def CallResult.ofDocument? (d : Document) : Option CallResult :=
  match d.fields? ["success", "data"] with
  | some [some success, data] => do
    let success ← success.bool?
    let data ← orDefault Document.text? "" data
    return { success, data }
  | _ => none

def aggregate? : Document → Option (List CallResult) :=
  soleList? "return_data" CallResult.ofDocument?

end PoolIndexer
