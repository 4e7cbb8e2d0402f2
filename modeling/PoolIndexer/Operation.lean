import PoolIndexer.Asset
import PoolIndexer.Table

/-!
What transactions do on the exchange: swaps, changes of liquidity, stakes and earnings, each with
its stored form, and the events that a chunk of transactions yields.
-/
namespace PoolIndexer

/-- One hop of a swap. A route through several pairs gives one operation per hop, all with the same
transaction. -/
structure Swap where
  key : String
  txHash : String
  height : Nat
  time : Int
  pairAddress : String
  sender : String
  offerDenom : String
  offerAmount : Int
  askDenom : String
  returnAmount : Int
  taxAmount : Int := 0
  commissionAmount : Int := 0
  spreadAmount : Int := 0
  /-- The offer valued in millionths of USDT. -/
  volumeUsdt : Int := 0
  /-- The commission valued in millionths of USDT. -/
  commissionUsdt : Int := 0
  deriving DecidableEq, Repr, Inhabited

inductive LiquidityKind
  | provide
  | withdraw
  deriving DecidableEq, Repr, Inhabited

/-- Liquidity provided to a pair or withdrawn from it. -/
structure LiquidityChange where
  key : String
  txHash : String
  height : Nat
  time : Int
  pairAddress : String
  creator : String
  kind : LiquidityKind
  firstDenom : String
  firstAmount : Int
  secondDenom : String
  secondAmount : Int
  share : Int
  /-- What the pool holds of the first denomination right after the change. -/
  firstHeld : Int := 0
  secondHeld : Int := 0
  /-- The fee of a withdrawal in millionths of USDT. -/
  fee : Int := 0
  deriving DecidableEq, Repr, Inhabited

/-- Liquidity tokens bonded into the staking contract. -/
structure Stake where
  key : String
  txHash : String
  height : Nat
  time : Int
  staker : String
  token : String
  amount : Int
  valueUsdt : Int := 0
  deriving DecidableEq, Repr, Inhabited

/-- A reward claimed from a staking pool, in one denomination. -/
structure Earning where
  key : String
  txHash : String
  height : Nat
  time : Int
  staker : String
  token : String
  rewardDenom : String
  amount : Int
  valueUsdt : Int := 0
  deriving DecidableEq, Repr, Inhabited

/-- What an indexed transaction brought about. -/
inductive Event
  | swap (op : Swap)
  | liquidity (op : LiquidityChange)
  | stake (op : Stake)
  | earn (op : Earning)
  deriving DecidableEq, Repr, Inhabited

namespace Event

def height : Event → Nat
  | .swap op => op.height
  | .liquidity op => op.height
  | .stake op => op.height
  | .earn op => op.height

def time : Event → Int
  | .swap op => op.time
  | .liquidity op => op.time
  | .stake op => op.time
  | .earn op => op.time

def swap? : Event → Option Swap
  | .swap op => some op
  | _ => none

def liquidity? : Event → Option LiquidityChange
  | .liquidity op => some op
  | _ => none

def stake? : Event → Option Stake
  | .stake op => some op
  | _ => none

def earn? : Event → Option Earning
  | .earn op => some op
  | _ => none

end Event

/-! ## Stored forms -/

def Swap.table : Table where
  name := "swap_ops_data"
  columns := [⟨"unique_key", .text⟩, ⟨"txhash", .text⟩, ⟨"txheight", .bigint⟩,
    ⟨"timestamp", .bigint⟩, ⟨"pair_addr", .text⟩, ⟨"sender", .text⟩, ⟨"offer_denom", .text⟩,
    ⟨"offer_amount", .numeric⟩, ⟨"ask_denom", .text⟩, ⟨"return_amount", .numeric⟩,
    ⟨"tax_amount", .numeric⟩, ⟨"commission_amount", .numeric⟩, ⟨"spread_amount", .numeric⟩,
    ⟨"volume_usdt", .numeric⟩, ⟨"commission_usdt", .numeric⟩]
  mode := .append

def Swap.toJson (op : Swap) : Json := .obj
  [("unique_key", .str op.key), ("txhash", .str op.txHash), ("txheight", .int op.height),
   ("timestamp", .int op.time), ("pair_addr", .str op.pairAddress), ("sender", .str op.sender),
   ("offer_denom", .str op.offerDenom), ("offer_amount", amountJson op.offerAmount),
   ("ask_denom", .str op.askDenom), ("return_amount", amountJson op.returnAmount),
   ("tax_amount", amountJson op.taxAmount), ("commission_amount", amountJson op.commissionAmount),
   ("spread_amount", amountJson op.spreadAmount), ("volume_usdt", amountJson op.volumeUsdt),
   ("commission_usdt", amountJson op.commissionUsdt)]

def Swap.ofDocument? (d : Document) : Option Swap :=
  match d.fields? (Swap.table.columns.map (·.name)) with
  | some [some key, some txHash, some height, some time, some pair, some sender, some offerDenom,
      some offerAmount, some askDenom, some returnAmount, some tax, some commission, some spread,
      some volume, some commissionUsdt] => do
    return {
      key := ← key.text?
      txHash := ← txHash.text?
      height := ← height.word? 64
      time := ← time.int64?
      pairAddress := ← pair.text?
      sender := ← sender.text?
      offerDenom := ← offerDenom.text?
      offerAmount := ← offerAmount.amount?
      askDenom := ← askDenom.text?
      returnAmount := ← returnAmount.amount?
      taxAmount := ← tax.amount?
      commissionAmount := ← commission.amount?
      spreadAmount := ← spread.amount?
      volumeUsdt := ← volume.amount?
      commissionUsdt := ← commissionUsdt.amount? }
  | _ => none

instance : Record Swap := ⟨Swap.table, Swap.toJson, Swap.ofDocument?⟩

def LiquidityChange.table : Table where
  name := "lp_ops_data"
  columns := [⟨"unique_key", .text⟩, ⟨"txhash", .text⟩, ⟨"txheight", .bigint⟩,
    ⟨"timestamp", .bigint⟩, ⟨"pair_addr", .text⟩, ⟨"tx_creator", .text⟩, ⟨"op_type", .text⟩,
    ⟨"first_token_denom", .text⟩, ⟨"first_token_amount", .numeric⟩,
    ⟨"second_token_denom", .text⟩, ⟨"second_token_amount", .numeric⟩, ⟨"lp_share", .numeric⟩,
    ⟨"first_token_lp", .numeric⟩, ⟨"second_token_lp", .numeric⟩, ⟨"tax_rate", .numeric⟩]
  mode := .append

def LiquidityKind.name : LiquidityKind → String
  | .provide => "provide"
  | .withdraw => "withdraw"

/-- A kind is its name, or an object with that name and `null`. -/
def LiquidityKind.ofDocument? : Document → Option LiquidityKind
  | .str (some "provide") => some .provide
  | .str (some "withdraw") => some .withdraw
  | .obj [(some "provide", .null)] => some .provide
  | .obj [(some "withdraw", .null)] => some .withdraw
  | _ => none

def LiquidityChange.toJson (op : LiquidityChange) : Json := .obj
  [("unique_key", .str op.key), ("txhash", .str op.txHash), ("txheight", .int op.height),
   ("timestamp", .int op.time), ("pair_addr", .str op.pairAddress),
   ("tx_creator", .str op.creator), ("op_type", .str op.kind.name),
   ("first_token_denom", .str op.firstDenom), ("first_token_amount", amountJson op.firstAmount),
   ("second_token_denom", .str op.secondDenom),
   ("second_token_amount", amountJson op.secondAmount), ("lp_share", amountJson op.share),
   ("first_token_lp", amountJson op.firstHeld), ("second_token_lp", amountJson op.secondHeld),
   ("tax_rate", amountJson op.fee)]

def LiquidityChange.ofDocument? (d : Document) : Option LiquidityChange :=
  match d.fields? (LiquidityChange.table.columns.map (·.name)) with
  | some [some key, some txHash, some height, some time, some pair, some creator, some kind,
      some firstDenom, some firstAmount, some secondDenom, some secondAmount, some share,
      some firstHeld, some secondHeld, some fee] => do
    return {
      key := ← key.text?
      txHash := ← txHash.text?
      height := ← height.word? 64
      time := ← time.int64?
      pairAddress := ← pair.text?
      creator := ← creator.text?
      kind := ← LiquidityKind.ofDocument? kind
      firstDenom := ← firstDenom.text?
      firstAmount := ← firstAmount.amount?
      secondDenom := ← secondDenom.text?
      secondAmount := ← secondAmount.amount?
      share := ← share.amount?
      firstHeld := ← firstHeld.amount?
      secondHeld := ← secondHeld.amount?
      fee := ← fee.amount? }
  | _ => none

instance : Record LiquidityChange :=
  ⟨LiquidityChange.table, LiquidityChange.toJson, LiquidityChange.ofDocument?⟩

def Stake.table : Table where
  name := "stakings"
  columns := [⟨"unique_key", .text⟩, ⟨"txhash", .text⟩, ⟨"txheight", .bigint⟩,
    ⟨"timestamp", .bigint⟩, ⟨"staker_address", .text⟩, ⟨"staking_asset_denom", .text⟩,
    ⟨"stake_amount", .numeric⟩, ⟨"stake_amount_in_usdt", .numeric⟩]
  mode := .append

def Stake.toJson (op : Stake) : Json := .obj
  [("unique_key", .str op.key), ("txhash", .str op.txHash), ("txheight", .int op.height),
   ("timestamp", .int op.time), ("staker_address", .str op.staker),
   ("staking_asset_denom", .str op.token), ("stake_amount", amountJson op.amount),
   ("stake_amount_in_usdt", amountJson op.valueUsdt)]

def Stake.ofDocument? (d : Document) : Option Stake :=
  match d.fields? (Stake.table.columns.map (·.name)) with
  | some [some key, some txHash, some height, some time, some staker, some token, some amount,
      some value] => do
    return {
      key := ← key.text?
      txHash := ← txHash.text?
      height := ← height.word? 64
      time := ← time.int64?
      staker := ← staker.text?
      token := ← token.text?
      amount := ← amount.amount?
      valueUsdt := ← value.amount? }
  | _ => none

instance : Record Stake := ⟨Stake.table, Stake.toJson, Stake.ofDocument?⟩

def Earning.table : Table where
  name := "earnings"
  columns := [⟨"unique_key", .text⟩, ⟨"txhash", .text⟩, ⟨"txheight", .bigint⟩,
    ⟨"timestamp", .bigint⟩, ⟨"staker_address", .text⟩, ⟨"staking_asset_denom", .text⟩,
    ⟨"reward_asset_denom", .text⟩, ⟨"earn_amount", .numeric⟩, ⟨"earn_amount_in_usdt", .numeric⟩]
  mode := .append

def Earning.toJson (op : Earning) : Json := .obj
  [("unique_key", .str op.key), ("txhash", .str op.txHash), ("txheight", .int op.height),
   ("timestamp", .int op.time), ("staker_address", .str op.staker),
   ("staking_asset_denom", .str op.token), ("reward_asset_denom", .str op.rewardDenom),
   ("earn_amount", amountJson op.amount), ("earn_amount_in_usdt", amountJson op.valueUsdt)]

def Earning.ofDocument? (d : Document) : Option Earning :=
  match d.fields? (Earning.table.columns.map (·.name)) with
  | some [some key, some txHash, some height, some time, some staker, some token,
      some rewardDenom, some amount, some value] => do
    return {
      key := ← key.text?
      txHash := ← txHash.text?
      height := ← height.word? 64
      time := ← time.int64?
      staker := ← staker.text?
      token := ← token.text?
      rewardDenom := ← rewardDenom.text?
      amount := ← amount.amount?
      valueUsdt := ← value.amount? }
  | _ => none

instance : Record Earning := ⟨Earning.table, Earning.toJson, Earning.ofDocument?⟩

/-! ## Events as JSON -/

/-- The name of an event's kind, and its record. -/
def Event.parts : Event → String × Json
  | .swap op => ("swap", op.toJson)
  | .liquidity op => ("liquidity", op.toJson)
  | .stake op => ("stake", op.toJson)
  | .earn op => ("earn", op.toJson)

def Event.toJson (e : Event) : Json := .obj
  [("kind", .str e.parts.1), ("height", .int e.height), ("time", .int e.time),
   ("record", e.parts.2)]

/-- The event of a kind that a record describes. -/
def Event.ofParts? (kind : String) (record : Json) : Option Event :=
  match kind with
  | "swap" => (Record.ofJson? record).map .swap
  | "liquidity" => (Record.ofJson? record).map .liquidity
  | "stake" => (Record.ofJson? record).map .stake
  | "earn" => (Record.ofJson? record).map .earn
  | _ => none

end PoolIndexer
