import PoolIndexer.Operation
import PoolIndexer.RowKey
import PoolIndexer.Timestamp
import PoolIndexer.Transaction.Coin
import PoolIndexer.Transaction.Message

/-!
Transactions as the chain delivers them, and the events read out of them.

The message of an execution says which actions count; the attributes of its `wasm` events say what
happened. A transaction is read as a whole or not at all, and one that cannot be read does not
touch the others of its chunk.
-/
namespace PoolIndexer

structure Attribute where
  key : String
  value : String := ""
  deriving DecidableEq, Repr, Inhabited

/-- What a message emitted under one type. -/
structure TxEvent where
  type : String
  attributes : List Attribute := []
  deriving DecidableEq, Repr, Inhabited

structure TxMessage where
  typeUrl : String := ""
  sender : String := ""
  body : Json := .null
  events : List TxEvent := []
  deriving Repr, Inhabited

structure Tx where
  hash : String
  height : Nat
  /-- The time of the block in RFC 3339. -/
  timestamp : String
  code : Nat
  messages : List TxMessage
  deriving Repr, Inhabited

/-- The type of the messages that execute contracts. -/
def executeTypeUrl : String := "/cosmwasm.wasm.v1.MsgExecuteContract"

/-- One execution of a contract with the attributes it emitted. -/
structure Execution where
  contract : String
  attributes : List Attribute
  deriving DecidableEq, Repr

/-- The attribute that opens an execution. -/
def contractKey : String := "_contract_address"

/-- Cuts attributes into executions; what comes before the first contract address belongs to
none. -/
def Execution.split : List Attribute → List Execution
  | [] => []
  | a :: rest =>
    if a.key = contractKey then
      ⟨a.value, rest.takeWhile (·.key != contractKey)⟩ :: split rest
    else split rest

/-- The executions of a message: its `wasm` events are read as one run of attributes. -/
def Execution.ofEvents (events : List TxEvent) : List Execution :=
  split ((events.filter (·.type == "wasm")).flatMap (·.attributes))

namespace Execution

/-- The first attribute of a name. -/
def get? (e : Execution) (key : String) : Option String :=
  (e.attributes.find? (·.key == key)).map (·.value)

def require (e : Execution) (action key : String) : Except ParseError String :=
  match e.get? key with
  | some value => .ok value
  | none => .error (.missingAttribute action key)

def requireAmount (e : Execution) (action key : String) : Except ParseError Int := do
  parseAmount (← e.require action key)

/-- An amount that is zero where its attribute is missing. -/
def optionalAmount (e : Execution) (key : String) : Except ParseError Int :=
  match e.get? key with
  | some value => parseAmount value
  | none => .ok 0

/-- The liquidity token of a staking action, which older contracts call `asset_info`. -/
def stakingToken (e : Execution) (action : String) : Except ParseError String :=
  match e.get? "staking_token", e.get? "asset_info" with
  | some token, _ => .ok token
  | none, some token => .ok token
  | none, none => .error (.missingAttribute action "staking_token")

end Execution

/-- What the operations of a message share. -/
structure TxContext where
  hash : String
  height : Nat
  time : Int
  sender : String
  deriving DecidableEq, Repr

def Swap.ofExecution (ctx : TxContext) (e : Execution) : Except ParseError Swap := do
  let offerDenom ← e.require "swap" "offer_asset"
  let askDenom ← e.require "swap" "ask_asset"
  let offerAmount ← e.requireAmount "swap" "offer_amount"
  let returnAmount ← e.requireAmount "swap" "return_amount"
  let taxAmount ← e.optionalAmount "tax_amount"
  let commissionAmount ← e.optionalAmount "commission_amount"
  let spreadAmount ← e.optionalAmount "spread_amount"
  return {
    key := RowKey.operation ctx.time offerDenom offerAmount askDenom returnAmount
    txHash := ctx.hash, height := ctx.height, time := ctx.time
    pairAddress := e.contract, sender := ctx.sender
    offerDenom, offerAmount, askDenom, returnAmount, taxAmount, commissionAmount, spreadAmount }

/-- The action, the list of assets and the share that a change of liquidity emits. -/
def LiquidityKind.attributes : LiquidityKind → String × String × String
  | .provide => ("provide_liquidity", "assets", "share")
  | .withdraw => ("withdraw_liquidity", "refund_assets", "withdrawn_share")

def LiquidityChange.ofExecution (ctx : TxContext) (kind : LiquidityKind) (e : Execution) :
    Except ParseError LiquidityChange := do
  let (action, assetsKey, shareKey) := kind.attributes
  let assets ← e.require action assetsKey
  match ← parseCoinList assets with
  | [first, second] =>
    let share ← e.requireAmount action shareKey
    return {
      key := RowKey.operation ctx.time first.denom first.amount second.denom second.amount
      txHash := ctx.hash, height := ctx.height, time := ctx.time
      pairAddress := e.contract, creator := ctx.sender, kind
      firstDenom := first.denom, firstAmount := first.amount
      secondDenom := second.denom, secondAmount := second.amount, share }
  | _ => throw (.invalidCoin assets)

def Stake.ofExecution (ctx : TxContext) (e : Execution) : Except ParseError Stake := do
  let staker ← e.require "bond" "staker_addr"
  let token ← e.stakingToken "bond"
  let amount ← e.requireAmount "bond" "amount"
  return {
    key := RowKey.join [Numeral.text ctx.time, ctx.hash, staker, token, Numeral.text amount]
    txHash := ctx.hash, height := ctx.height, time := ctx.time, staker, token, amount }

/-- One earning for each rewarded coin. -/
def Earning.ofExecution (ctx : TxContext) (e : Execution) : Except ParseError (List Earning) := do
  let staker ← e.require "withdraw_reward" "staker_addr"
  let token ← e.stakingToken "withdraw_reward"
  let rewards ← parseCoinList (← e.require "withdraw_reward" "reward_amount")
  return rewards.map fun reward => {
    key := RowKey.join [Numeral.text ctx.time, ctx.hash, staker, token, reward.denom,
      Numeral.text reward.amount]
    txHash := ctx.hash, height := ctx.height, time := ctx.time, staker, token
    rewardDenom := reward.denom, amount := reward.amount }

/-- The actions that count in the executions of a message. -/
inductive Harvest
  | swaps
  | provides
  | withdrawals
  | bonds
  | rewards
  | nothing
  deriving DecidableEq, Repr

def Harvest.ofHook : Hook → Harvest
  | .swap .. => .swaps
  | .route _ => .swaps
  | .withdrawLiquidity => .withdrawals
  | .bond => .bonds
  | .unrecognized => .nothing

def Harvest.ofMessage : Message → Except ParseError Harvest
  | .swap _ => .ok .swaps
  | .route _ => .ok .swaps
  | .provideLiquidity _ => .ok .provides
  | .send _ _ hook => (Hook.decode hook).map ofHook
  | .bond => .ok .bonds
  | .unbond => .ok .nothing
  | .withdrawReward => .ok .rewards
  | .unrecognized => .ok .nothing

/-- The events of one execution: none unless its action is the one that counts. -/
def Harvest.events (harvest : Harvest) (ctx : TxContext) (e : Execution) :
    Except ParseError (List Event) :=
  match harvest, e.get? "action" with
  | .swaps, some "swap" => do return [.swap (← Swap.ofExecution ctx e)]
  | .provides, some "provide_liquidity" => do
    return [.liquidity (← LiquidityChange.ofExecution ctx .provide e)]
  | .withdrawals, some "withdraw_liquidity" => do
    return [.liquidity (← LiquidityChange.ofExecution ctx .withdraw e)]
  | .bonds, some "bond" => do return [.stake (← Stake.ofExecution ctx e)]
  | .rewards, some "withdraw_reward" => do return (← Earning.ofExecution ctx e).map .earn
  | _, _ => .ok []

namespace TxMessage

/-- The events of a message, execution by execution. -/
def parse (ctx : TxContext) (m : TxMessage) : Except ParseError (List Event) := do
  let harvest ← Harvest.ofMessage (← Message.decode m.body)
  return (← (Execution.ofEvents m.events).mapM (harvest.events ctx)).flatten

end TxMessage

namespace Tx

/-- The events of a transaction in the order of its messages. Messages that do not execute a
contract count for nothing. -/
def parse (tx : Tx) : Except ParseError (List Event) := do
  match Timestamp.parse? tx.timestamp with
  | none => throw (.invalidTimestamp tx.timestamp)
  | some time =>
    let messages := tx.messages.filter (·.typeUrl == executeTypeUrl)
    return (← messages.mapM fun m => m.parse ⟨tx.hash, tx.height, time, m.sender⟩).flatten

/-- The events that count: none of a failed transaction, and none of one that cannot be read. -/
def events (tx : Tx) : List Event :=
  if tx.code = 0 then
    match tx.parse with
    | .ok events => events
    | .error _ => []
  else []

/-- The events of a chunk in the order of heights; those of one height keep their order. -/
def parseAll (txs : List Tx) : List Event :=
  (txs.flatMap events).mergeSort fun a b => decide (a.height ≤ b.height)

end Tx
end PoolIndexer
