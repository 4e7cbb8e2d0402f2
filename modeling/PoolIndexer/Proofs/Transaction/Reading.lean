import PoolIndexer.Proofs.Result.Lists
import PoolIndexer.Transaction

/-! What is read off an execution. Its events have its contract and its attributes, and what the
transaction is stamped with; nothing else goes into them. There are none if an attribute that they
need is missing or cannot be read. -/
namespace PoolIndexer

/-! ## Attributes -/

namespace Execution

variable {e : Execution} {action key : String}

/-- The execution has the attribute, and it is an amount. -/
def Amount (e : Execution) (key : String) (n : Int) : Prop :=
  ∃ text, e.get? key = some text ∧ parseAmount text = .ok n

/-- An amount, or zero if the execution does not have the attribute. -/
def AmountOrZero (e : Execution) (key : String) (n : Int) : Prop :=
  e.Amount key n ∨ e.get? key = none ∧ n = 0

/-- The execution has the attribute, and it is a list of coins. -/
def Coins (e : Execution) (key : String) (coins : List Coin) : Prop :=
  ∃ text, e.get? key = some text ∧ parseCoinList text = .ok coins

/-- The liquidity token that is staked, under its newer name or else under its older one. -/
def Token (e : Execution) (token : String) : Prop :=
  e.get? "staking_token" = some token ∨
    e.get? "staking_token" = none ∧ e.get? "asset_info" = some token

theorem exists_coins : (∃ coins, e.Coins key coins) ↔
    ∃ text, e.get? key = some text ∧ ∃ coins, parseCoinList text = .ok coins := by
  simp only [Coins, ← exists_and_left]
  exact exists_comm

theorem require_ok {value : String} :
    e.require action key = .ok value ↔ e.get? key = some value := by
  unfold require
  cases e.get? key <;> simp

theorem requireAmount_ok {n : Int} : e.requireAmount action key = .ok n ↔ e.Amount key n := by
  simp only [requireAmount, Result.bind_ok, require_ok, Amount]

theorem optionalAmount_ok {n : Int} : e.optionalAmount key = .ok n ↔ e.AmountOrZero key n := by
  unfold optionalAmount AmountOrZero Amount
  cases e.get? key with
  | none => simp [eq_comm]
  | some text => simp

theorem stakingToken_ok {token : String} : e.stakingToken action = .ok token ↔ e.Token token := by
  unfold stakingToken Token
  cases e.get? "staking_token" with
  | none => cases e.get? "asset_info" <;> simp
  | some newer => simp

end Execution

/-! ## Events -/

section

variable {ctx : TxContext} {e : Execution} {kind : LiquidityKind}

/-- The swap is the one of an execution. -/
structure Swap.ReadFrom (ctx : TxContext) (e : Execution) (op : Swap) : Prop where
  offerDenom : e.get? "offer_asset" = some op.offerDenom
  askDenom : e.get? "ask_asset" = some op.askDenom
  offerAmount : e.Amount "offer_amount" op.offerAmount
  returnAmount : e.Amount "return_amount" op.returnAmount
  taxAmount : e.AmountOrZero "tax_amount" op.taxAmount
  commissionAmount : e.AmountOrZero "commission_amount" op.commissionAmount
  spreadAmount : e.AmountOrZero "spread_amount" op.spreadAmount
  made : op = {
    key := RowKey.operation ctx.time op.offerDenom op.offerAmount op.askDenom op.returnAmount
    txHash := ctx.hash, height := ctx.height, time := ctx.time
    pairAddress := e.contract, sender := ctx.sender
    offerDenom := op.offerDenom, offerAmount := op.offerAmount
    askDenom := op.askDenom, returnAmount := op.returnAmount, taxAmount := op.taxAmount
    commissionAmount := op.commissionAmount, spreadAmount := op.spreadAmount }

/-- The change of liquidity is the one of an execution. -/
structure LiquidityChange.ReadFrom (ctx : TxContext) (kind : LiquidityKind) (e : Execution)
    (op : LiquidityChange) : Prop where
  assets : e.Coins kind.attributes.2.1
    [⟨op.firstDenom, op.firstAmount⟩, ⟨op.secondDenom, op.secondAmount⟩]
  share : e.Amount kind.attributes.2.2 op.share
  made : op = {
    key := RowKey.operation ctx.time op.firstDenom op.firstAmount op.secondDenom op.secondAmount
    txHash := ctx.hash, height := ctx.height, time := ctx.time
    pairAddress := e.contract, creator := ctx.sender, kind
    firstDenom := op.firstDenom, firstAmount := op.firstAmount
    secondDenom := op.secondDenom, secondAmount := op.secondAmount, share := op.share }

/-- The stake is the one of an execution. -/
structure Stake.ReadFrom (ctx : TxContext) (e : Execution) (op : Stake) : Prop where
  staker : e.get? "staker_addr" = some op.staker
  token : e.Token op.token
  amount : e.Amount "amount" op.amount
  made : op = {
    key := RowKey.join [Numeral.text ctx.time, ctx.hash, op.staker, op.token,
      Numeral.text op.amount]
    txHash := ctx.hash, height := ctx.height, time := ctx.time
    staker := op.staker, token := op.token, amount := op.amount }

/-- The earnings are those of an execution, one for each of its coins. -/
def Earning.ReadFrom (ctx : TxContext) (e : Execution) (ops : List Earning) : Prop :=
  ∃ staker token coins, e.get? "staker_addr" = some staker ∧ e.Token token ∧
    e.Coins "reward_amount" coins ∧ ops = coins.map fun coin => {
      key := RowKey.join [Numeral.text ctx.time, ctx.hash, staker, token, coin.denom,
        Numeral.text coin.amount]
      txHash := ctx.hash, height := ctx.height, time := ctx.time, staker, token
      rewardDenom := coin.denom, amount := coin.amount }

/-- The execution has what a swap needs, and the amounts can be read. -/
def Swap.Complete (e : Execution) : Prop :=
  (∃ denom, e.get? "offer_asset" = some denom) ∧ (∃ denom, e.get? "ask_asset" = some denom) ∧
    (∃ n, e.Amount "offer_amount" n) ∧ (∃ n, e.Amount "return_amount" n) ∧
    (∃ n, e.AmountOrZero "tax_amount" n) ∧ (∃ n, e.AmountOrZero "commission_amount" n) ∧
    ∃ n, e.AmountOrZero "spread_amount" n

/-- The execution has what a change of liquidity needs, two coins and a share. -/
def LiquidityChange.Complete (kind : LiquidityKind) (e : Execution) : Prop :=
  (∃ first second, e.Coins kind.attributes.2.1 [first, second]) ∧
    ∃ n, e.Amount kind.attributes.2.2 n

/-- The execution has what a stake needs. -/
def Stake.Complete (e : Execution) : Prop :=
  (∃ staker, e.get? "staker_addr" = some staker) ∧ (∃ token, e.Token token) ∧
    ∃ n, e.Amount "amount" n

/-- The execution has what earnings need. -/
def Earning.Complete (e : Execution) : Prop :=
  (∃ staker, e.get? "staker_addr" = some staker) ∧ (∃ token, e.Token token) ∧
    ∃ coins, e.Coins "reward_amount" coins

theorem Swap.ofExecution_ok {op : Swap} :
    Swap.ofExecution ctx e = .ok op ↔ op.ReadFrom ctx e := by
  simp only [ofExecution, Result.bind_ok, Execution.require_ok, Execution.requireAmount_ok,
    Execution.optionalAmount_ok]
  constructor
  · rintro ⟨_, offer, _, ask, _, offered, _, returned, _, tax, _, commission, _, spread, same⟩
    cases same
    exact ⟨offer, ask, offered, returned, tax, commission, spread, rfl⟩
  · intro read
    exact ⟨_, read.offerDenom, _, read.askDenom, _, read.offerAmount, _, read.returnAmount,
      _, read.taxAmount, _, read.commissionAmount, _, read.spreadAmount,
      congrArg Except.ok read.made.symm⟩

theorem Swap.exists_ofExecution :
    (∃ op, Swap.ofExecution ctx e = .ok op) ↔ Swap.Complete e := by
  simp only [ofExecution, Result.exists_bind_ok, Execution.require_ok, Execution.requireAmount_ok,
    Execution.optionalAmount_ok, Result.exists_pure_ok, exists_and_right, and_true, Complete]

theorem LiquidityChange.ofExecution_ok {op : LiquidityChange} :
    LiquidityChange.ofExecution ctx kind e = .ok op ↔ op.ReadFrom ctx kind e := by
  simp only [ofExecution, Result.bind_ok, Execution.require_ok]
  constructor
  · rintro ⟨text, assets, coins, parsed, made⟩
    -- a list of more or fewer coins than two is an error
    split at made
    · rename_i first second
      obtain ⟨share, shares, same⟩ := Result.bind_ok.mp made
      cases same
      exact ⟨⟨text, assets, parsed⟩, Execution.requireAmount_ok.mp shares, rfl⟩
    · cases made
  · rintro ⟨⟨text, assets, parsed⟩, share, made⟩
    exact ⟨text, assets, _, parsed, Result.bind_ok.mpr
      ⟨_, Execution.requireAmount_ok.mpr share, congrArg Except.ok made.symm⟩⟩

theorem LiquidityChange.exists_ofExecution :
    (∃ op, LiquidityChange.ofExecution ctx kind e = .ok op) ↔ LiquidityChange.Complete kind e := by
  constructor
  · rintro ⟨op, done⟩
    have read := ofExecution_ok.mp done
    exact ⟨⟨_, _, read.assets⟩, _, read.share⟩
  · rintro ⟨⟨first, second, text, assets, parsed⟩, n, share⟩
    exact Result.exists_bind_ok.mpr ⟨text, Execution.require_ok.mpr assets,
      Result.exists_bind_ok.mpr ⟨[first, second], parsed,
        Result.exists_bind_ok.mpr ⟨n, Execution.requireAmount_ok.mpr share, _, rfl⟩⟩⟩

theorem Stake.ofExecution_ok {op : Stake} :
    Stake.ofExecution ctx e = .ok op ↔ op.ReadFrom ctx e := by
  simp only [ofExecution, Result.bind_ok, Execution.require_ok, Execution.requireAmount_ok,
    Execution.stakingToken_ok]
  constructor
  · rintro ⟨_, staker, _, token, _, amount, same⟩
    cases same
    exact ⟨staker, token, amount, rfl⟩
  · intro read
    exact ⟨_, read.staker, _, read.token, _, read.amount, congrArg Except.ok read.made.symm⟩

theorem Stake.exists_ofExecution :
    (∃ op, Stake.ofExecution ctx e = .ok op) ↔ Stake.Complete e := by
  simp only [ofExecution, Result.exists_bind_ok, Execution.require_ok, Execution.stakingToken_ok,
    Execution.requireAmount_ok, Result.exists_pure_ok, exists_and_right, and_true, Complete]

theorem Earning.ofExecution_ok {ops : List Earning} :
    Earning.ofExecution ctx e = .ok ops ↔ Earning.ReadFrom ctx e ops := by
  simp only [ofExecution, Result.bind_ok, Execution.require_ok, Execution.stakingToken_ok]
  constructor
  · rintro ⟨staker, its, token, staked, text, rewards, coins, parsed, same⟩
    exact ⟨staker, token, coins, its, staked, ⟨text, rewards, parsed⟩, (Except.ok.inj same).symm⟩
  · rintro ⟨staker, token, coins, its, staked, ⟨text, rewards, parsed⟩, same⟩
    exact ⟨staker, its, token, staked, text, rewards, coins, parsed, congrArg Except.ok same.symm⟩

theorem Earning.exists_ofExecution :
    (∃ ops, Earning.ofExecution ctx e = .ok ops) ↔ Earning.Complete e := by
  simp only [ofExecution, Result.exists_bind_ok, Execution.require_ok, Execution.stakingToken_ok,
    Result.exists_pure_ok, exists_and_right, and_true, Complete, Execution.exists_coins]

end

/-! ## The action that counts -/

namespace Harvest

/-- The action that counts, if there is one. -/
def action? : Harvest → Option String
  | .swaps => some "swap"
  | .provides => some "provide_liquidity"
  | .withdrawals => some "withdraw_liquidity"
  | .bonds => some "bond"
  | .rewards => some "withdraw_reward"
  | .nothing => none

/-- The first action of the execution is the one that counts. -/
def counts (harvest : Harvest) (e : Execution) : Bool :=
  match harvest.action? with
  | some action => e.get? "action" == some action
  | none => false

/-- The events are those of an execution whose action counts: one, or one for each coin of a
reward. -/
def Reads (ctx : TxContext) (e : Execution) : Harvest → List Event → Prop
  | .swaps, events => ∃ op : Swap, op.ReadFrom ctx e ∧ events = [.swap op]
  | .provides, events => ∃ op : LiquidityChange, op.ReadFrom ctx .provide e ∧
      events = [.liquidity op]
  | .withdrawals, events => ∃ op : LiquidityChange, op.ReadFrom ctx .withdraw e ∧
      events = [.liquidity op]
  | .bonds, events => ∃ op : Stake, op.ReadFrom ctx e ∧ events = [.stake op]
  | .rewards, events => ∃ ops, Earning.ReadFrom ctx e ops ∧ events = ops.map .earn
  | .nothing, _ => False

/-- The execution has the attributes that its action needs, and the amounts among them can be
read. -/
def Complete (e : Execution) : Harvest → Prop
  | .swaps => Swap.Complete e
  | .provides => LiquidityChange.Complete .provide e
  | .withdrawals => LiquidityChange.Complete .withdraw e
  | .bonds => Stake.Complete e
  | .rewards => Earning.Complete e
  | .nothing => True

variable {ctx : TxContext} {e : Execution} {harvest : Harvest} {events : List Event}

theorem action_of_counts {action : String} (counted : harvest.counts e)
    (its : harvest.action? = some action) : e.get? "action" = some action := by
  simpa [counts, its] using counted

theorem events_of_not_counts (other : ¬ harvest.counts e) : harvest.events ctx e = .ok [] := by
  unfold Harvest.events
  split
  case h_6 => rfl
  -- in the other cases the action is the one that counts
  all_goals
    rename_i action
    exact absurd (by simp [counts, action?, action]) other

theorem events_of_counts (counted : harvest.counts e) :
    harvest.events ctx e = .ok events ↔ harvest.Reads ctx e events := by
  cases harvest with
  | swaps =>
    have action := action_of_counts counted rfl
    simp only [Harvest.events, action, Result.return_ok, Swap.ofExecution_ok, Reads]
  | provides =>
    have action := action_of_counts counted rfl
    simp only [Harvest.events, action, Result.return_ok, LiquidityChange.ofExecution_ok, Reads]
  | withdrawals =>
    have action := action_of_counts counted rfl
    simp only [Harvest.events, action, Result.return_ok, LiquidityChange.ofExecution_ok, Reads]
  | bonds =>
    have action := action_of_counts counted rfl
    simp only [Harvest.events, action, Result.return_ok, Stake.ofExecution_ok, Reads]
  | rewards =>
    have action := action_of_counts counted rfl
    simp only [Harvest.events, action, Result.return_ok, Earning.ofExecution_ok, Reads]
  | nothing => cases counted

/-- An execution that events come from is one whose action counts. -/
theorem reads_of_mem {event : Event} (read : harvest.events ctx e = .ok events)
    (member : event ∈ events) : harvest.counts e ∧ harvest.Reads ctx e events := by
  by_cases counted : harvest.counts e
  · exact ⟨counted, (events_of_counts counted).mp read⟩
  · rw [events_of_not_counts counted] at read
    cases read
    cases member

/-- The execution can be read if it is complete, and only then. -/
theorem exists_events (counted : harvest.counts e) :
    (∃ events, harvest.events ctx e = .ok events) ↔ harvest.Complete e := by
  cases harvest with
  | swaps =>
    have action := action_of_counts counted rfl
    simp only [Harvest.events, action, Result.exists_bind_ok, Result.exists_pure_ok, and_true,
      Swap.exists_ofExecution, Complete]
  | provides =>
    have action := action_of_counts counted rfl
    simp only [Harvest.events, action, Result.exists_bind_ok, Result.exists_pure_ok, and_true,
      LiquidityChange.exists_ofExecution, Complete]
  | withdrawals =>
    have action := action_of_counts counted rfl
    simp only [Harvest.events, action, Result.exists_bind_ok, Result.exists_pure_ok, and_true,
      LiquidityChange.exists_ofExecution, Complete]
  | bonds =>
    have action := action_of_counts counted rfl
    simp only [Harvest.events, action, Result.exists_bind_ok, Result.exists_pure_ok, and_true,
      Stake.exists_ofExecution, Complete]
  | rewards =>
    have action := action_of_counts counted rfl
    simp only [Harvest.events, action, Result.exists_bind_ok, Result.exists_pure_ok, and_true,
      Earning.exists_ofExecution, Complete]
  | nothing => cases counted

end Harvest
end PoolIndexer
