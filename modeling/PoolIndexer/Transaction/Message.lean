import PoolIndexer.Asset
import PoolIndexer.Json.Reader
import PoolIndexer.Text.Base64
import PoolIndexer.Transaction.Error

/-!
The messages that are sent to contracts of the exchange, and the hooks that token transfers carry.

A message is an object with one field that names its kind. Kinds that are not known, and values
that are no such object, are unrecognized; a known kind with a body of another form is an error.
-/
namespace PoolIndexer

/-- A swap through several pairs, each hop as what is offered and what is asked for. -/
structure Route where
  hops : List (AssetInfo × AssetInfo)
  minimumReceive : Option String
  recipient : Option String
  deriving DecidableEq, Repr, Inhabited

/-- A message that executes a contract. -/
inductive Message
  | swap (offer : Asset)
  | route (route : Route)
  | provideLiquidity (assets : List Asset)
  /-- Tokens sent to a contract together with an encoded hook. -/
  | send (contract amount hook : String)
  | bond
  | unbond
  | withdrawReward
  | unrecognized
  deriving DecidableEq, Repr

/-- What a contract is to do with tokens sent to it. -/
inductive Hook
  | swap (beliefPrice maxSpread recipient : Option String)
  | route (route : Route)
  | withdrawLiquidity
  | bond
  | unrecognized
  deriving DecidableEq, Repr

/-- A field that may be missing or `null`. -/
def optionalText? : Option Document → Option (Option String) :=
  orDefault (Document.nullable? Document.text?) none

def hop? (d : Document) : Option (AssetInfo × AssetInfo) :=
  match d.choice? with
  | some ("orai_swap", body) =>
    match Document.Origin.value.fields? ["offer_asset_info", "ask_asset_info"] body with
    | some [some offer, some ask] => do
      let offer ← AssetInfo.ofDocument? .value offer
      let ask ← AssetInfo.ofDocument? .value ask
      return (offer, ask)
    | _ => none
  | _ => none

def Route.ofDocument? (d : Document) : Option Route :=
  match d.fields? ["operations", "minimum_receive", "to"] with
  | some [some hops, minimum, recipient] => do
    let hops ← hops.list? hop?
    let minimumReceive ← optionalText? minimum
    let recipient ← optionalText? recipient
    return { hops, minimumReceive, recipient }
  | _ => none

/-- A body without fields of its own. -/
def emptyBody? (d : Document) : Option Unit := (Document.named? [] d).map fun _ => ()

namespace Message

/-- The kinds that are known, with how each body is read. -/
def readers : List (String × (Document → Option Message)) :=
  [("swap", fun d =>
      match Document.Origin.value.fields? ["offer_asset"] d with
      | some [some offer] => (Asset.ofDocument? .value offer).map .swap
      | _ => none),
   ("execute_swap_operations", fun d => (Route.ofDocument? d).map .route),
   ("provide_liquidity", fun d =>
      match Document.Origin.value.fields? ["assets"] d with
      | some [some assets] => (assets.list? (Asset.ofDocument? .value)).map .provideLiquidity
      | _ => none),
   ("send", fun d =>
      match d.fields? ["contract", "amount", "msg"] with
      | some [some contract, some amount, some hook] => do
        let contract ← contract.text?
        let amount ← amount.text?
        let hook ← hook.text?
        return .send contract amount hook
      | _ => none),
   ("bond", fun d => (emptyBody? d).map fun _ => .bond),
   ("unbond", fun d => (emptyBody? d).map fun _ => .unbond),
   ("withdraw", fun d => (emptyBody? d).map fun _ => .withdrawReward)]

end Message

namespace Hook

def readers : List (String × (Document → Option Hook)) :=
  [("swap", fun d =>
      match Document.Origin.value.fields? ["belief_price", "max_spread", "to"] d with
      | some [belief, spread, recipient] => do
        let belief ← optionalText? belief
        let spread ← optionalText? spread
        let recipient ← optionalText? recipient
        return .swap belief spread recipient
      | _ => none),
   ("execute_swap_operations", fun d => (Route.ofDocument? d).map .route),
   ("withdraw_liquidity", fun d => (emptyBody? d).map fun _ => .withdrawLiquidity),
   ("bond", fun d => (emptyBody? d).map fun _ => .bond)]

end Hook

/-- Reads a value by the reader of its kind. -/
def readKind {α : Type} (readers : List (String × (Document → Option α))) (unrecognized : α) :
    Json → Except ParseError α
  | .obj [(kind, body)] =>
    match readers.lookup kind with
    | none => .ok unrecognized
    | some read? =>
      match read? body.toDocument with
      | some message => .ok message
      | none => .error (.malformedMessage kind)
  | _ => .ok unrecognized

def Message.decode (j : Json) : Except ParseError Message :=
  readKind Message.readers .unrecognized j

/-- The hook in the Base64 text of a token transfer, which may have blanks at its ends. -/
def Hook.decode (encoded : String) : Except ParseError Hook :=
  match (Base64.text? (trim encoded.toList)).bind Json.parse? with
  | some j => readKind Hook.readers .unrecognized j
  | none => .error .invalidHook

end PoolIndexer
