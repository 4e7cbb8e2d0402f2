import PoolIndexer.Proofs.Replay

/-! Balances by denomination. Every event moves amounts of the denominations that it names, and a
pair's reserves are the balances of its two denominations and of its shares. -/
namespace PoolIndexer

/-- What is kept count of: amounts of a denomination, and shares. -/
inductive Account
  | tokens (denom : String)
  | shares
  deriving DecidableEq, Repr

inductive Move
  | add (amount : Int)
  | take (amount : Int)
  deriving DecidableEq, Repr

def Move.amount : Move → Int
  | .add n => n
  | .take n => n

/-- What a move makes of an amount. Nothing that is taken leaves less than nothing. -/
def Move.on (held : Int) : Move → Int
  | .add n => held + n
  | .take n => max (held - n) 0

/-- What moves make of an amount, as far as their accounts are counted. -/
def balance (counted : Account → Bool) (start : Int) (moves : List (Account × Move)) : Int :=
  moves.foldl (fun held move => if counted move.1 then move.2.on held else held) start

def LiquidityChange.moves (op : LiquidityChange) : List (Account × Move) :=
  match op.kind with
  | .provide => [(.tokens op.firstDenom, .add op.firstAmount),
      (.tokens op.secondDenom, .add op.secondAmount), (.shares, .add op.share)]
  | .withdraw => [(.tokens op.firstDenom, .take op.firstAmount),
      (.tokens op.secondDenom, .take op.secondAmount), (.shares, .take op.share)]

def Event.moves : Event → List (Account × Move)
  | .swap op => [(.tokens op.offerDenom, .add op.offerAmount),
      (.tokens op.askDenom, .take op.returnAmount)]
  | .liquidity op => op.moves
  | .stake _ => []
  | .earn _ => []

/-- What a snapshot says of an account of a pool, zero if it does not have the pool. -/
def Snapshot.amount (s : Snapshot) (address : String) : Account → Int
  | .tokens denom => ((s.get? address).map (·.amountOf denom)).getD 0
  | .shares => ((s.get? address).map (·.totalShare)).getD 0

/-! ## Balances -/

section

variable {counted : Account → Bool} {start : Int} {moves : List (Account × Move)}

@[simp] theorem balance_nil : balance counted start [] = start := rfl

@[simp] theorem balance_cons (move : Account × Move) :
    balance counted start (move :: moves) =
      balance counted (if counted move.1 then move.2.on start else start) moves := rfl

theorem balance_append (more : List (Account × Move)) :
    balance counted start (moves ++ more) = balance counted (balance counted start moves) more := by
  simp [balance]

/-- Only what is added can make less than nothing of an amount. -/
theorem balance_nonneg (held : 0 ≤ start)
    (added : ∀ move ∈ moves, ∀ n, move.2 = .add n → 0 ≤ n) : 0 ≤ balance counted start moves := by
  induction moves generalizing start with
  | nil => exact held
  | cons move rest ih =>
    obtain ⟨first, others⟩ := List.forall_mem_cons.mp added
    obtain ⟨account, move⟩ := move
    rw [balance_cons]
    refine ih ?_ others
    split
    · cases move with
      | add n => exact Int.add_nonneg held (first n rfl)
      | take n => exact Int.le_max_right _ _
    · exact held

/-- All that is moved, in either direction. -/
def turnover : List (Account × Move) → Nat
  | [] => 0
  | move :: rest => move.2.amount.natAbs + turnover rest

/-- A balance is no further from where it started than all that is moved, unless it was raised
from less than nothing. -/
theorem balance_within (counted : Account → Bool) (start : Int) (moves : List (Account × Move)) :
    start - turnover moves ≤ balance counted start moves ∧
      balance counted start moves ≤ max start 0 + turnover moves := by
  induction moves generalizing start with
  | nil =>
    simp only [turnover, balance_nil]
    omega
  | cons move rest ih =>
    obtain ⟨account, move⟩ := move
    have one : start - move.amount.natAbs ≤ move.on start ∧
        move.on start ≤ max start 0 + move.amount.natAbs := by
      cases move with
      | add n =>
        simp only [Move.on, Move.amount]
        omega
      | take n =>
        simp only [Move.on, Move.amount]
        omega
    have total : turnover ((account, move) :: rest) = move.amount.natAbs + turnover rest := rfl
    rw [balance_cons, total]
    split
    · obtain ⟨below, above⟩ := ih (move.on start)
      simp only at below above ⊢
      omega
    · obtain ⟨below, above⟩ := ih start
      omega

end

/-! ## Reserves -/

namespace Pair

/-- What is counted as the base of a pair. -/
def isBase (pair : Pair) (account : Account) : Bool := account == .tokens pair.base.denom

/-- What is counted as the quote of a pair, if it is not its base. -/
def isQuote (pair : Pair) (account : Account) : Bool :=
  account == .tokens pair.quote.denom && !pair.isBase account

end Pair

namespace Reserves

/-- The reserves after moves. -/
def moved (r : Reserves) (pair : Pair) (moves : List (Account × Move)) : Reserves where
  base := balance pair.isBase r.base moves
  quote := balance pair.isQuote r.quote moves
  share := balance (· == .shares) r.share moves

theorem moved_append (r : Reserves) (pair : Pair) (moves more : List (Account × Move)) :
    r.moved pair (moves ++ more) = (r.moved pair moves).moved pair more := by
  simp only [moved, balance_append]

/-- A change of a reserve is a move of the account that has its denomination. -/
theorem change_eq_moved (r : Reserves) (pair : Pair) (denom : String) (move : Move) :
    r.change pair denom (move.on ·) = r.moved pair [(.tokens denom, move)] := by
  by_cases base : denom = pair.base.denom
  · simp [change, moved, Pair.isBase, Pair.isQuote, base]
  · by_cases quote : denom = pair.quote.denom
    · simp [change, moved, Pair.isBase, Pair.isQuote, ← quote, base, Ne.symm base]
    · simp [change, moved, Pair.isBase, Pair.isQuote, base, quote, Ne.symm base, Ne.symm quote]

theorem deposit_eq_moved (r : Reserves) (pair : Pair) (denom : String) (amount : Int) :
    r.deposit pair denom amount = r.moved pair [(.tokens denom, .add amount)] :=
  change_eq_moved r pair denom (.add amount)

theorem withdraw_eq_moved (r : Reserves) (pair : Pair) (denom : String) (amount : Int) :
    r.withdraw pair denom amount = r.moved pair [(.tokens denom, .take amount)] :=
  change_eq_moved r pair denom (.take amount)

theorem share_eq_moved (r : Reserves) (pair : Pair) (move : Move) :
    { r with share := move.on r.share } = r.moved pair [(.shares, move)] := by
  simp [moved, Pair.isBase, Pair.isQuote]

theorem apply_eq_moved (r : Reserves) (pair : Pair) (event : Event) :
    r.apply pair event = r.moved pair event.moves := by
  cases event with
  | swap op =>
    simp only [apply, Event.moves, deposit_eq_moved, withdraw_eq_moved, ← moved_append,
      List.singleton_append]
  | liquidity op =>
    change r.apply pair (.liquidity op) = r.moved pair op.moves
    cases kind : op.kind with
    | provide =>
      have moves : op.moves = [(.tokens op.firstDenom, .add op.firstAmount)] ++
          [(.tokens op.secondDenom, .add op.secondAmount)] ++ [(.shares, .add op.share)] := by
        simp [LiquidityChange.moves, kind]
      rw [moves, moved_append, moved_append, ← deposit_eq_moved, ← deposit_eq_moved,
        ← share_eq_moved]
      simp only [apply, kind, Move.on]
    | withdraw =>
      have moves : op.moves = [(.tokens op.firstDenom, .take op.firstAmount)] ++
          [(.tokens op.secondDenom, .take op.secondAmount)] ++ [(.shares, .take op.share)] := by
        simp [LiquidityChange.moves, kind]
      rw [moves, moved_append, moved_append, ← withdraw_eq_moved, ← withdraw_eq_moved,
        ← share_eq_moved]
      simp only [apply, kind, Move.on, monus]
  | stake op => rfl
  | earn op => rfl

theorem ofSnapshot_eq_amounts (s : Snapshot) (pair : Pair) (address : String) :
    ofSnapshot s pair address = ⟨s.amount address (.tokens pair.base.denom),
      s.amount address (.tokens pair.quote.denom), s.amount address .shares⟩ := by
  unfold ofSnapshot Snapshot.amount
  cases s.get? address with
  | none => rfl
  | some pool => rfl

theorem after_eq_moved (r : Reserves) (pair : Pair) (events : List Event) :
    r.after pair events =
      r.moved pair ((events.filter (·.touches pair.address)).flatMap Event.moves) := by
  unfold after
  induction events.filter (·.touches pair.address) generalizing r with
  | nil => rfl
  | cons event rest ih =>
    rw [List.foldl_cons, ih, List.flatMap_cons, moved_append, apply_eq_moved]

end Reserves

/-- The balances of a pair's two denominations and of its shares, from what a snapshot says and what
the pair's own events move. -/
def Snapshot.balances (s : Snapshot) (pair : Pair) (events : List Event) : Reserves :=
  let moves := (events.filter (·.touches pair.address)).flatMap Event.moves
  { base := balance pair.isBase (s.amount pair.address (.tokens pair.base.denom)) moves
    quote := balance pair.isQuote (s.amount pair.address (.tokens pair.quote.denom)) moves
    share := balance (· == .shares) (s.amount pair.address .shares) moves }

theorem Snapshot.balances_eq (s : Snapshot) (pair : Pair) (events : List Event) :
    s.balances pair events = (Reserves.ofSnapshot s pair pair.address).after pair events := by
  rw [Reserves.after_eq_moved, Reserves.ofSnapshot_eq_amounts]
  rfl

end PoolIndexer
