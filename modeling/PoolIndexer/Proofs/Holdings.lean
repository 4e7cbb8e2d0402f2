import Mathlib.Data.List.Induction
import PoolIndexer.Proofs.Balance

/-! What operations are told that their pool holds. The running holdings of a pair are kept by the
places of its first operation's denominations. They are the balances of every operation's own
denominations, whatever the pool held before, if all operations of a pair name its denominations in
one order, and only then. -/
namespace PoolIndexer

variable {s : Snapshot} {ops : List LiquidityChange} {op first : LiquidityChange}

/-- Gives every operation holdings that depend on it and on the operations before it. -/
def withHeld (held : List LiquidityChange → LiquidityChange → Holdings)
    (before : List LiquidityChange) : List LiquidityChange → List LiquidityChange
  | [] => []
  | op :: rest =>
    { op with firstHeld := (held before op).1, secondHeld := (held before op).2 }
      :: withHeld held (before ++ [op]) rest

theorem withHeld_eq_iff {f g : List LiquidityChange → LiquidityChange → Holdings}
    {before ops : List LiquidityChange} :
    withHeld f before ops = withHeld g before ops ↔
      ∀ done op rest, ops = done ++ op :: rest → f (before ++ done) op = g (before ++ done) op := by
  induction ops generalizing before with
  | nil => simp [withHeld]
  | cons op rest ih =>
    simp only [withHeld, List.cons.injEq, LiquidityChange.mk.injEq, true_and, and_true, ih]
    constructor
    · rintro ⟨⟨same, same'⟩, others⟩ done later behind split
      cases done with
      | nil =>
        cases split
        simpa using Prod.ext same same'
      | cons head done =>
        cases split
        simpa using others done later behind rfl
    · intro all
      have here : f before op = g before op := by simpa using all [] op rest rfl
      refine ⟨⟨by rw [here], by rw [here]⟩, fun done later behind split => ?_⟩
      simpa using all (op :: done) later behind (by rw [split]; rfl)

/-! ## Running holdings -/

namespace Snapshot

/-- What the operations on a pool make of what the first of them finds there. -/
def running (s : Snapshot) (address : String) (ops : List LiquidityChange) : Option Holdings :=
  ops.foldl (fun held op =>
    if op.pairAddress = address then some (op.apply (held.getD (s.holdings op))) else held) none

/-- The running holdings of its pool right after an operation. -/
def kept (s : Snapshot) (before : List LiquidityChange) (op : LiquidityChange) : Holdings :=
  op.apply ((s.running op.pairAddress before).getD (s.holdings op))

/-- What the operations on a pool make of a denomination that it holds. -/
def balanceOf (s : Snapshot) (address denom : String) (ops : List LiquidityChange) : Int :=
  balance (· == .tokens denom) (s.amount address (.tokens denom))
    ((ops.filter (·.pairAddress == address)).flatMap LiquidityChange.moves)

/-- The balances of its own denominations right after an operation. -/
def owned (s : Snapshot) (before : List LiquidityChange) (op : LiquidityChange) : Holdings :=
  (s.balanceOf op.pairAddress op.firstDenom (before ++ [op]),
    s.balanceOf op.pairAddress op.secondDenom (before ++ [op]))

theorem running_concat (address : String) (before : List LiquidityChange) :
    s.running address (before ++ [op]) =
      if op.pairAddress = address then some (op.apply ((s.running address before).getD
        (s.holdings op))) else s.running address before := by
  simp [running]

theorem balanceOf_concat (address denom : String) (before : List LiquidityChange) :
    s.balanceOf address denom (before ++ [op]) =
      if op.pairAddress = address then
        balance (· == .tokens denom) (s.balanceOf address denom before) op.moves
      else s.balanceOf address denom before := by
  by_cases its : op.pairAddress = address
  · simp [balanceOf, its, balance_append]
  · simp [balanceOf, its]

theorem holdings_eq_amounts (s : Snapshot) (op : LiquidityChange) :
    s.holdings op = (s.amount op.pairAddress (.tokens op.firstDenom),
      s.amount op.pairAddress (.tokens op.secondDenom)) := by
  unfold holdings amount
  cases s.get? op.pairAddress with
  | none => rfl
  | some pool => rfl

end Snapshot

theorem accumulateHoldings_go {running : List (String × Holdings)} {before : List LiquidityChange}
    (met : ∀ address, running.lookup address = s.running address before) :
    accumulateHoldings.go s running ops = withHeld s.kept before ops := by
  induction ops generalizing running before with
  | nil => rfl
  | cons op rest ih =>
    simp only [accumulateHoldings.go, withHeld, met, Snapshot.kept]
    congr 1
    refine ih fun address => ?_
    rw [Snapshot.running_concat]
    by_cases here : op.pairAddress = address
    · subst here
      rw [if_pos rfl, Keyed.lookup_insert_self]
    · rw [if_neg here]
      exact (Keyed.lookup_upsert_ne (Ne.symm here) _ _).trans (met address)

theorem accumulateHoldings_eq (s : Snapshot) (ops : List LiquidityChange) :
    accumulateHoldings s ops = withHeld s.kept [] ops :=
  accumulateHoldings_go fun _ => rfl

/-! ## One order -/

/-- Operations on one pool name its denominations in one order. -/
def OneOrder (ops : List LiquidityChange) : Prop :=
  ∀ a ∈ ops, ∀ b ∈ ops, a.pairAddress = b.pairAddress →
    a.firstDenom = b.firstDenom ∧ a.secondDenom = b.secondDenom

namespace LiquidityChange

theorem apply_eq_balances (different : op.firstDenom ≠ op.secondDenom) (held : Holdings) :
    op.apply held = (balance (· == .tokens op.firstDenom) held.1 op.moves,
      balance (· == .tokens op.secondDenom) held.2 op.moves) := by
  cases kind : op.kind with
  | provide => simp [apply, moves, kind, Move.on, different, Ne.symm different]
  | withdraw => simp [apply, moves, kind, Move.on, monus, different, Ne.symm different]

/-- An operation takes no more from either place than it moves. -/
theorem apply_within (op : LiquidityChange) (held : Holdings) :
    held.1 - turnover op.moves ≤ (op.apply held).1 ∧
      held.2 - turnover op.moves ≤ (op.apply held).2 := by
  cases kind : op.kind with
  | provide =>
    simp only [apply, moves, kind, turnover, Move.amount]
    omega
  | withdraw =>
    simp only [apply, moves, kind, turnover, Move.amount, monus]
    omega

end LiquidityChange

namespace Snapshot

/-- Where the operations before it name the denominations as an operation does, the running holdings
are the balances. -/
theorem running_eq_balances (different : op.firstDenom ≠ op.secondDenom)
    {before : List LiquidityChange}
    (ordered : ∀ earlier ∈ before, earlier.pairAddress = op.pairAddress →
      earlier.firstDenom = op.firstDenom ∧ earlier.secondDenom = op.secondDenom) :
    (s.running op.pairAddress before).getD (s.holdings op) =
      (s.balanceOf op.pairAddress op.firstDenom before,
        s.balanceOf op.pairAddress op.secondDenom before) := by
  induction before using List.reverseRecOn with
  | nil => exact s.holdings_eq_amounts op
  | append_singleton before last ih =>
    have held := ih fun earlier member => ordered earlier (List.mem_append_left _ member)
    rw [running_concat, balanceOf_concat, balanceOf_concat]
    by_cases its : last.pairAddress = op.pairAddress
    · obtain ⟨firsts, seconds⟩ := ordered last (List.mem_append_right _ List.mem_cons_self) its
      have finds : s.holdings last = s.holdings op := by
        rw [holdings_eq_amounts, holdings_eq_amounts, its, firsts, seconds]
      have apart : last.firstDenom ≠ last.secondDenom := by rwa [firsts, seconds]
      rw [if_pos its, if_pos its, if_pos its, finds, held, Option.getD_some,
        LiquidityChange.apply_eq_balances apart, firsts, seconds]
    · rw [if_neg its, if_neg its, if_neg its, held]

theorem kept_eq_owned (two : ∀ op ∈ ops, op.firstDenom ≠ op.secondDenom) (ordered : OneOrder ops)
    {done rest : List LiquidityChange} (split : ops = done ++ op :: rest) :
    s.kept done op = s.owned done op := by
  have member : op ∈ ops := by simp [split]
  have different := two op member
  have held : (s.running op.pairAddress done).getD (s.holdings op) = _ :=
    running_eq_balances different fun earlier before its =>
      ordered earlier (by simp [split, before]) op member its
  rw [kept, held, LiquidityChange.apply_eq_balances different, owned, balanceOf_concat,
    balanceOf_concat, if_pos rfl, if_pos rfl]

end Snapshot

/-! ## Another order -/

theorem turnover_append (moves more : List (Account × Move)) :
    turnover (moves ++ more) = turnover moves + turnover more := by
  induction moves with
  | nil => simp [turnover]
  | cons move rest ih => rw [List.cons_append, turnover, turnover, ih, Nat.add_assoc]

namespace Snapshot

/-- A snapshot with one pool, which has an amount of one denomination. -/
def single (address denom : String) (amount : Int) : Snapshot :=
  ⟨0, [(address, ⟨[⟨.native denom, amount⟩], 0⟩)]⟩

@[simp] theorem single_amount (address denom denom' : String) (n : Int) :
    (single address denom n).amount address (.tokens denom') = if denom = denom' then n else 0 := by
  by_cases here : denom = denom'
  · simp [single, amount, get?, Pool.amountOf, AssetInfo.denom, here]
  · simp [single, amount, get?, Pool.amountOf, AssetInfo.denom, here]

theorem running_none {address : String} {ops : List LiquidityChange}
    (unfound : ops.find? (·.pairAddress == address) = none) : s.running address ops = none := by
  induction ops using List.reverseRecOn with
  | nil => rfl
  | append_singleton before last ih =>
    rw [List.find?_append, Option.or_eq_none_iff] at unfound
    have elsewhere : last.pairAddress ≠ address := by simpa using unfound.2
    rw [running_concat, if_neg elsewhere, ih unfound.1]

/-- The running holdings start from what the first operation on the pool finds, and the operations
take no more from either place than they move. -/
theorem running_within {address : String} {ops : List LiquidityChange}
    (found : ops.find? (·.pairAddress == address) = some first) :
    ∃ held, s.running address ops = some held ∧
      (s.holdings first).1 - turnover (ops.flatMap LiquidityChange.moves) ≤ held.1 ∧
      (s.holdings first).2 - turnover (ops.flatMap LiquidityChange.moves) ≤ held.2 := by
  induction ops using List.reverseRecOn with
  | nil => cases found
  | append_singleton before last ih =>
    have total : turnover ((before ++ [last]).flatMap LiquidityChange.moves) =
        turnover (before.flatMap LiquidityChange.moves) + turnover last.moves := by
      simp [turnover_append]
    rw [running_concat, total]
    cases earlier : before.find? (·.pairAddress == address) with
    | some _ =>
      rw [List.find?_append, earlier, Option.some_or] at found
      obtain ⟨held, is, below, below'⟩ := ih (earlier.trans found)
      by_cases its : last.pairAddress = address
      · obtain ⟨taken, taken'⟩ := last.apply_within held
        refine ⟨last.apply held, by simp [its, is], ?_, ?_⟩
        · omega
        · omega
      · refine ⟨held, by rw [if_neg its, is], ?_, ?_⟩
        · omega
        · omega
    | none =>
      rw [List.find?_append, earlier, Option.none_or, List.find?_singleton] at found
      obtain ⟨its, rfl⟩ : last.pairAddress = address ∧ last = first := by simpa using found
      obtain ⟨taken, taken'⟩ := last.apply_within (s.holdings last)
      refine ⟨last.apply (s.holdings last), by simp [its, running_none earlier], ?_, ?_⟩
      · omega
      · omega

/-- A balance is no more than the pool held and the operations on it move. -/
theorem balanceOf_le (s : Snapshot) (address denom : String) (ops : List LiquidityChange) :
    s.balanceOf address denom ops ≤ max (s.amount address (.tokens denom)) 0 +
      turnover ((ops.filter (·.pairAddress == address)).flatMap LiquidityChange.moves) :=
  (balance_within _ _ _).2

/-- If the running holdings are the balances whatever the pool held, then what the first operation
on it finds exceeds what it holds of an operation's denominations by no more than a bound. -/
theorem finds_within {done : List LiquidityChange}
    (found : (done ++ [op]).find? (·.pairAddress == op.pairAddress) = some first)
    (same : ∀ s : Snapshot, s.kept done op = s.owned done op) :
    ∃ bound : Nat, ∀ s : Snapshot,
      (s.holdings first).1 ≤ max (s.amount op.pairAddress (.tokens op.firstDenom)) 0 + bound ∧
      (s.holdings first).2 ≤ max (s.amount op.pairAddress (.tokens op.secondDenom)) 0 + bound := by
  refine ⟨turnover ((done ++ [op]).flatMap LiquidityChange.moves) + turnover (((done ++ [op]).filter
    (·.pairAddress == op.pairAddress)).flatMap LiquidityChange.moves), fun s => ?_⟩
  obtain ⟨held, is, low, low'⟩ := running_within (s := s) found
  rw [running_concat, if_pos rfl] at is
  obtain rfl : s.owned done op = held := (same s).symm.trans (Option.some.inj is)
  have high := s.balanceOf_le op.pairAddress op.firstDenom (done ++ [op])
  have high' := s.balanceOf_le op.pairAddress op.secondDenom (done ++ [op])
  simp only [owned] at low low'
  constructor
  · omega
  · omega

/-- A pool that has enough of a denomination of its first operation tells other operations by the
denominations that they name. -/
theorem named_as_first {done : List LiquidityChange}
    (found : (done ++ [op]).find? (·.pairAddress == op.pairAddress) = some first)
    (same : ∀ s : Snapshot, s.kept done op = s.owned done op) :
    op.firstDenom = first.firstDenom ∧ op.secondDenom = first.secondDenom := by
  have its : first.pairAddress = op.pairAddress := by simpa using List.find?_some found
  obtain ⟨bound, near⟩ := finds_within found same
  constructor
  · by_contra other
    have close := (near (single op.pairAddress first.firstDenom (bound + 1))).1
    simp only [holdings_eq_amounts, its, single_amount, if_true, Ne.symm other, if_false] at close
    omega
  · by_contra other
    have close := (near (single op.pairAddress first.secondDenom (bound + 1))).2
    simp only [holdings_eq_amounts, its, single_amount, if_true, Ne.symm other, if_false] at close
    omega

end Snapshot

/-- Operations that each name two denominations are told the balances of their own denominations,
whatever the pools held before, exactly if those on one pool name its denominations in one order. -/
theorem holdings_owned_iff (two : ∀ op ∈ ops, op.firstDenom ≠ op.secondDenom) :
    (∀ s : Snapshot, accumulateHoldings s ops = withHeld s.owned [] ops) ↔ OneOrder ops := by
  simp only [accumulateHoldings_eq, withHeld_eq_iff, List.nil_append]
  constructor
  · intro same
    have as_first : ∀ op ∈ ops, ∀ first, ops.find? (·.pairAddress == op.pairAddress) = some first →
        op.firstDenom = first.firstDenom ∧ op.secondDenom = first.secondDenom := by
      intro op member first found
      obtain ⟨done, rest, split⟩ := List.append_of_mem member
      refine Snapshot.named_as_first ?_ fun s => same s done op rest split
      have upTo : ((done ++ [op]).find? (·.pairAddress == op.pairAddress)).isSome := by simp
      rw [split, List.append_cons, List.find?_append, Option.or_of_isSome upTo] at found
      exact found
    intro a memberA b memberB its
    obtain ⟨first, found⟩ : ∃ first, ops.find? (·.pairAddress == a.pairAddress) = some first :=
      Option.isSome_iff_exists.mp (List.find?_isSome.mpr ⟨a, memberA, by simp⟩)
    obtain ⟨firstA, secondA⟩ := as_first a memberA first found
    obtain ⟨firstB, secondB⟩ := as_first b memberB first (its ▸ found)
    exact ⟨firstA.trans firstB.symm, secondA.trans secondB.symm⟩
  · intro ordered s done op rest split
    exact Snapshot.kept_eq_owned two ordered split

/-! Liquidity that is provided to one pool twice, with the denominations in one order and then in
the other. -/

def providedOnce : LiquidityChange :=
  { key := "", txHash := "A", height := 101, time := 5, pairAddress := "p", creator := "c"
    kind := .provide, firstDenom := "orai", firstAmount := 10, secondDenom := "uatom"
    secondAmount := 20, share := 0 }

def providedTwice : List LiquidityChange :=
  [providedOnce, { providedOnce with firstDenom := "uatom", firstAmount := 1, secondDenom := "orai"
                                     secondAmount := 2 }]

def provisionedSnapshot : Snapshot :=
  ⟨100, [("p", ⟨[⟨.native "orai", 4⟩, ⟨.native "uatom", 4⟩], 0⟩)]⟩

theorem holdings_owned_iff_twice :
    (∀ op ∈ providedTwice, op.firstDenom ≠ op.secondDenom) ∧
      (∀ s : Snapshot, accumulateHoldings s [providedOnce, providedOnce] =
        withHeld s.owned [] [providedOnce, providedOnce]) ∧
      ¬ ∀ s : Snapshot, accumulateHoldings s providedTwice = withHeld s.owned [] providedTwice := by
  refine ⟨by decide, (holdings_owned_iff (by decide)).mpr ?_, fun same => ?_⟩
  · simp [OneOrder]
  · have ordered := (holdings_owned_iff (by decide)).mp same
    simp [OneOrder, providedTwice, providedOnce] at ordered

/-- The second operation is told what the pool holds of the other denomination plus its amount. -/
theorem reversed_held :
    (accumulateHoldings provisionedSnapshot providedTwice).map
        (fun op => (op.firstHeld, op.secondHeld)) = [(14, 24), (15, 26)] ∧
      (withHeld provisionedSnapshot.owned [] providedTwice).map
        (fun op => (op.firstHeld, op.secondHeld)) = [(14, 24), (25, 16)] := by
  decide

end PoolIndexer
