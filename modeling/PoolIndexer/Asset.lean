import PoolIndexer.Json.Decode

/-!
Assets: what can be traded, amounts of it, and their JSON forms.
-/
namespace PoolIndexer

/-- A tradable asset: a token contract, or a denomination of the bank. -/
inductive AssetInfo
  | token (contract : String)
  | native (denom : String)
  deriving DecidableEq, Repr, Inhabited

/-- The contract address or the bank denomination. -/
def AssetInfo.denom : AssetInfo → String
  | .token contract => contract
  | .native denom => denom

def AssetInfo.isNative : AssetInfo → Bool
  | .token _ => false
  | .native _ => true

/-- An amount of an asset in its smallest unit. -/
structure Asset where
  info : AssetInfo
  amount : Int
  deriving DecidableEq, Repr, Inhabited

/-- An amount of a denomination, as coin lists write it. -/
structure Coin where
  denom : String
  amount : Int
  deriving DecidableEq, Repr, Inhabited

def AssetInfo.toJson : AssetInfo → Json
  | .token contract => .obj [("token", .obj [("contract_addr", .str contract)])]
  | .native denom => .obj [("native_token", .obj [("denom", .str denom)])]

/-- Amounts are written as text, so that no reader loses digits. -/
def amountJson (n : Int) : Json := .str (Numeral.text n)

def Asset.toJson (a : Asset) : Json :=
  .obj [("info", a.info.toJson), ("amount", amountJson a.amount)]

def Coin.toJson (c : Coin) : Json :=
  .obj [("denom", .str c.denom), ("amount", amountJson c.amount)]

/-- The two assets of a pair as a list, base before quote. -/
def assetInfosJson (base quote : AssetInfo) : Json := .arr [base.toJson, quote.toJson]

def AssetInfo.ofDocument? (origin : Document.Origin) (d : Document) : Option AssetInfo :=
  match d.choice? with
  | some ("token", body) =>
    match origin.fields? ["contract_addr"] body with
    | some [contract] => (contract.bind Document.text?).map .token
    | _ => none
  | some ("native_token", body) =>
    match origin.fields? ["denom"] body with
    | some [denom] => (denom.bind Document.text?).map .native
    | _ => none
  | _ => none

def Asset.ofDocument? (origin : Document.Origin) (d : Document) : Option Asset :=
  match d.fields? ["info", "amount"] with
  | some [some info, some amount] => do
    let info ← AssetInfo.ofDocument? origin info
    let amount ← amount.amount?
    return ⟨info, amount⟩
  | _ => none

def Coin.ofDocument? (d : Document) : Option Coin :=
  match d.fields? ["denom", "amount"] with
  | some [some denom, some amount] => do
    let denom ← denom.text?
    let amount ← amount.amount?
    return ⟨denom, amount⟩
  | _ => none

/-- The two assets of a pair, base before quote. -/
def assetInfoPair? (origin : Document.Origin) : Document → Option (AssetInfo × AssetInfo)
  | .arr [base, quote] => do
    let base ← AssetInfo.ofDocument? origin base
    let quote ← AssetInfo.ofDocument? origin quote
    return (base, quote)
  | _ => none

end PoolIndexer
