import PoolIndexer.Proofs.Candle.Cutting
import PoolIndexer.Proofs.Display
import PoolIndexer.Proofs.Timestamp

/-! Which candles can be stored. The lows and highs of a minute keep every price of its swaps that
is not finite, and so all of its prices are finite or the candle is refused. -/
namespace PoolIndexer

namespace Binary64

variable {x y : Binary64}

theorem isFinite_iff : x.isFinite ↔ -infinityMagnitude < x.rank ∧ x.rank < infinityMagnitude := by
  simp only [isFinite, rank, decide_eq_true_eq]
  split
  · omega
  · omega

variable (numberX : x.isNaN = false) (numberY : y.isNaN = false)
include numberX numberY

theorem max_rank : (x.max y).rank = Max.max x.rank y.rank := by
  by_cases below : x.rank < y.rank
  · simp only [max, lt, numberX, numberY, below, decide_true, Bool.not_false, Bool.and_self,
      Bool.false_eq_true, if_false, if_true]
    omega
  · simp only [max, lt, numberX, numberY, below, decide_false, Bool.and_false, Bool.false_eq_true,
      if_false]
    omega

theorem min_rank : (x.min y).rank = Min.min x.rank y.rank := by
  by_cases below : y.rank < x.rank
  · simp only [min, lt, numberX, numberY, below, decide_true, Bool.not_false, Bool.and_self,
      Bool.false_eq_true, if_false, if_true]
    omega
  · simp only [min, lt, numberX, numberY, below, decide_false, Bool.and_false, Bool.false_eq_true,
      if_false]
    omega

theorem max_not_isNaN : (x.max y).isNaN = false := by
  rcases max_eq_or x y with same | same
  · rwa [same]
  · rwa [same]

theorem min_not_isNaN : (x.min y).isNaN = false := by
  rcases min_eq_or x y with same | same
  · rwa [same]
  · rwa [same]

end Binary64

namespace Candle

/-- All prices of the candle are finite. -/
structure Finite (c : Candle) : Prop where
  openPrice : c.openPrice.isFinite
  high : c.high.isFinite
  low : c.low.isFinite
  close : c.close.isFinite

/-- The prices of the candle are numbers, and lie between its low and its high. -/
structure Proper (c : Candle) : Prop where
  high : c.high.isNaN = false
  low : c.low.isNaN = false
  openPrice : c.low.rank ≤ c.openPrice.rank ∧ c.openPrice.rank ≤ c.high.rank
  close : c.low.rank ≤ c.close.rank ∧ c.close.rank ≤ c.high.rank

variable {c later : Candle}

theorem Proper.finite_iff (proper : c.Proper) : c.Finite ↔
    -Binary64.infinityMagnitude < c.low.rank ∧ c.high.rank < Binary64.infinityMagnitude := by
  have opens := proper.openPrice
  have closes := proper.close
  constructor
  · intro finite
    exact ⟨(Binary64.isFinite_iff.mp finite.low).1, (Binary64.isFinite_iff.mp finite.high).2⟩
  · rintro ⟨low, high⟩
    refine ⟨?_, ?_, ?_, ?_⟩ <;> exact Binary64.isFinite_iff.mpr (by omega)

theorem Proper.extend (proper : c.Proper) (properLater : later.Proper) :
    (c.extend later).Proper := by
  have high : (c.extend later).high.rank = Max.max c.high.rank later.high.rank :=
    Binary64.max_rank proper.high properLater.high
  have low : (c.extend later).low.rank = Min.min c.low.rank later.low.rank :=
    Binary64.min_rank proper.low properLater.low
  have opens := proper.openPrice
  have closes := properLater.close
  refine ⟨Binary64.max_not_isNaN proper.high properLater.high,
    Binary64.min_not_isNaN proper.low properLater.low, ?_, ?_⟩
  · change _ ≤ c.openPrice.rank ∧ c.openPrice.rank ≤ _
    omega
  · change _ ≤ later.close.rank ∧ later.close.rank ≤ _
    omega

/-- An extended candle is finite where both candles are. -/
theorem extend_finite (proper : c.Proper) (properLater : later.Proper) :
    (c.extend later).Finite ↔ c.Finite ∧ later.Finite := by
  have high : (c.extend later).high.rank = Max.max c.high.rank later.high.rank :=
    Binary64.max_rank proper.high properLater.high
  have low : (c.extend later).low.rank = Min.min c.low.rank later.low.rank :=
    Binary64.min_rank proper.low properLater.low
  -- the extended candle forgets the first close and the later open: its low and high stand in
  rw [(proper.extend properLater).finite_iff, proper.finite_iff, properLater.finite_iff, high, low]
  omega

theorem add_proper {candles : List Candle} (proper : ∀ c ∈ candles, c.Proper)
    (properLater : later.Proper) : ∀ c ∈ add later candles, c.Proper := by
  induction candles with
  | nil => simpa [add] using properLater
  | cons first rest ih =>
    obtain ⟨here, others⟩ := List.forall_mem_cons.mp proper
    simp only [add]
    split
    · exact List.forall_mem_cons.mpr ⟨here.extend properLater, others⟩
    · exact List.forall_mem_cons.mpr ⟨here, ih others⟩

theorem add_finite {candles : List Candle} (proper : ∀ c ∈ candles, c.Proper)
    (properLater : later.Proper) :
    (∀ c ∈ add later candles, c.Finite) ↔ (∀ c ∈ candles, c.Finite) ∧ later.Finite := by
  induction candles with
  | nil => simp [add]
  | cons first rest ih =>
    obtain ⟨here, others⟩ := List.forall_mem_cons.mp proper
    simp only [add]
    split
    · rw [List.forall_mem_cons, List.forall_mem_cons, extend_finite here properLater]
      exact and_right_comm
    · rw [List.forall_mem_cons, List.forall_mem_cons, ih others, and_assoc]

theorem addAll_finite {candles later : List Candle} (proper : ∀ c ∈ candles, c.Proper)
    (properLater : ∀ c ∈ later, c.Proper) :
    (∀ c ∈ addAll candles later, c.Finite) ↔
      (∀ c ∈ candles, c.Finite) ∧ ∀ c ∈ later, c.Finite := by
  induction later generalizing candles with
  | nil => simp [addAll]
  | cons first rest ih =>
    obtain ⟨here, others⟩ := List.forall_mem_cons.mp properLater
    have step := ih (add_proper proper here) others
    rw [List.forall_mem_cons, ← and_assoc, ← add_finite proper here]
    exact step

theorem single_proper {key pair : String} {time volume : Int} {height : Nat} {price : Binary64}
    (number : price.isNaN = false) : (single key pair time height price volume).Proper :=
  ⟨number, number, ⟨Int.le_refl _, Int.le_refl _⟩, Int.le_refl _, Int.le_refl _⟩

theorem single_finite {key pair : String} {time volume : Int} {height : Nat} {price : Binary64} :
    (single key pair time height price volume).Finite ↔ price.isFinite :=
  ⟨fun finite => finite.openPrice, fun finite => ⟨finite, finite, finite, finite⟩⟩

end Candle

/-! ## The candles of swaps -/

namespace Swap

/-- The base and the quote units that a swap of the pair moves. -/
def traded (op : Swap) (pair : Pair) : Int × Int :=
  if op.offerDenom = pair.base.denom then (op.offerAmount, op.returnAmount)
  else (op.returnAmount, op.offerAmount)

/-- Where the swap makes a candle, its price is below the least number without a binary64: to the
nearest whole number, after a cut to six places. -/
def Priced (pairs : List Pair) (op : Swap) : Prop :=
  ∀ pair, findByAddress pairs op.pairAddress = some pair → (op.traded pair).1 ≠ 0 →
    ((op.traded pair).2.natAbs * 1000000 / (op.traded pair).1.natAbs + 500000) / 1000000
      < Binary64.overflow

/-- The candle that the swap makes if it is one of the pair. -/
def candleOf (op : Swap) (pair : Pair) : Candle :=
  let time := Timestamp.bucket op.time Timestamp.candleInterval
  .single (RowKey.join [Numeral.text time, pair.name, Numeral.text op.height]) pair.name time
    op.height (Decimal.displayRatio (op.traded pair).2 (op.traded pair).1) (op.traded pair).1

variable {pairs : List Pair} {op : Swap}

theorem candle?_eq_some {c : Candle} : op.candle? pairs = some c ↔
    ∃ pair, findByAddress pairs op.pairAddress = some pair ∧ (op.traded pair).1 ≠ 0 ∧
      op.candleOf pair = c := by
  have made : op.candle? pairs = (findByAddress pairs op.pairAddress).bind fun pair =>
      if (op.traded pair).1 = 0 then none else some (op.candleOf pair) := rfl
  rw [made, Option.bind_eq_some_iff]
  refine exists_congr fun pair => and_congr_right fun _ => ?_
  by_cases empty : (op.traded pair).1 = 0
  · simp [empty]
  · simp [empty]

/-- A swap has a price wherever its quote units have a binary64. -/
theorem priced_of_lt (pairs : List Pair)
    (few : ∀ pair, (op.traded pair).2.natAbs + 1 < Binary64.overflow) : op.Priced pairs := by
  intro pair _ moves
  have divisor : 0 < (op.traded pair).1.natAbs := Int.natAbs_pos.mpr moves
  have whole := Nat.div_le_self ((op.traded pair).2.natAbs * 1000000) (op.traded pair).1.natAbs
  refine Nat.lt_of_le_of_lt ?_ (few pair)
  omega

theorem candleOf_proper (op : Swap) (pair : Pair) : (op.candleOf pair).Proper :=
  Candle.single_proper (Decimal.displayRatio_not_isNaN _ _)

/-- A candle of a swap is finite where its price has a binary64. -/
theorem candle?_finite :
    (∀ c, op.candle? pairs = some c → c.Finite) ↔ op.Priced pairs := by
  constructor
  · intro finite pair found moves
    have made : op.candle? pairs = some (op.candleOf pair) :=
      candle?_eq_some.mpr ⟨pair, found, moves, rfl⟩
    exact (Decimal.displayRatio_isFinite moves).mp (Candle.single_finite.mp (finite _ made))
  · intro priced c made
    obtain ⟨pair, found, moves, rfl⟩ := candle?_eq_some.mp made
    have finite := (Decimal.displayRatio_isFinite moves).mpr (priced pair found moves)
    exact Candle.single_finite.mpr finite

end Swap

variable {swaps : List Swap} {pairs : List Pair}

theorem swapCandles_proper (pairs : List Pair) (swaps : List Swap) :
    ∀ c ∈ swapCandles pairs swaps, c.Proper := by
  intro c member
  obtain ⟨op, _, made⟩ := List.mem_filterMap.mp member
  obtain ⟨pair, _, _, rfl⟩ := Swap.candle?_eq_some.mp made
  exact op.candleOf_proper pair

theorem buildCandles_finite :
    (∀ c ∈ buildCandles swaps pairs, c.Finite) ↔ ∀ op ∈ swaps, op.Priced pairs := by
  have single : (∀ c ∈ swapCandles pairs swaps, c.Finite) ↔ ∀ op ∈ swaps, op.Priced pairs := by
    constructor
    · intro finite op among
      refine Swap.candle?_finite.mp fun c made => finite c ?_
      exact List.mem_filterMap.mpr ⟨op, among, made⟩
    · intro priced c member
      obtain ⟨op, among, made⟩ := List.mem_filterMap.mp member
      exact Swap.candle?_finite.mpr (priced op among) c made
  rw [← single, buildCandles_eq, Candle.addAll_finite (by simp) (swapCandles_proper pairs swaps)]
  simp

/-- Every candle begins with the minute of one of the swaps. -/
theorem buildCandles_time {c : Candle} (member : c ∈ buildCandles swaps pairs) :
    ∃ op ∈ swaps, c.time = Timestamp.bucket op.time Timestamp.candleInterval := by
  have whole := Candle.merged_of_mem (buildCandles_apart swaps pairs) member
  rw [merged_buildCandles] at whole
  obtain ⟨first, here⟩ := List.exists_mem_of_ne_nil
    ((swapCandles pairs swaps).filter (Candle.isAt c.pair c.time)) fun empty => by
      simp [Candle.merged_eq_none.mpr empty] at whole
  obtain ⟨among, same⟩ := List.mem_filter.mp here
  obtain ⟨op, its, made⟩ := List.mem_filterMap.mp among
  obtain ⟨pair, _, _, rfl⟩ := Swap.candle?_eq_some.mp made
  exact ⟨op, its, (Candle.isAt_iff.mp same).2.symm⟩

/-- Where the heights fit, candles can be stored exactly when every swap has a price. -/
theorem buildCandles_fits (heights : ∀ op ∈ swaps, op.height < twoTo 63) :
    (∀ c ∈ buildCandles swaps pairs, c.Fits) ↔ ∀ op ∈ swaps, op.Priced pairs := by
  rw [← buildCandles_finite]
  constructor
  · intro fits c member
    have fit := fits c member
    exact ⟨fit.openPrice, fit.high, fit.low, fit.close⟩
  · intro finite c member
    have prices := finite c member
    obtain ⟨op, _, minute⟩ := buildCandles_time member
    obtain ⟨first, among, height⟩ := mem_buildCandles member
    refine ⟨?_, ?_, prices.openPrice, prices.high, prices.low, prices.close⟩
    · rw [minute]
      exact Timestamp.bucket_lt (by decide)
    · rw [← height]
      exact heights first among

end PoolIndexer
