import PoolIndexer.Price
import PoolIndexer.Proofs.Decimal

/-!
Rounding to whole units. An integer rounds a number when no integer is nearer to it and, of two that
are as near, it is the one farther from zero. Symmetry and monotonicity follow from this alone; the
nearest integer of a decimal and the value of an amount at a price are both such integers.
-/
namespace PoolIndexer

/-- `n` is a nearest integer to `x`, and where another is as near, the other is the smaller one in
magnitude. -/
structure RoundsTo (x : ℚ) (n : ℤ) : Prop where
  near : |(n : ℚ) - x| ≤ 1 / 2
  away : ∀ m : ℤ, m ≠ n → |(m : ℚ) - x| = 1 / 2 → |m| < |n|

namespace RoundsTo

variable {x y : ℚ} {m n : ℤ}

theorem neg (rounds : RoundsTo x n) : RoundsTo (-x) (-n) := by
  have mirror : ∀ k : ℤ, |((-k : ℤ) : ℚ) - -x| = |(k : ℚ) - x| := by
    intro k
    rw [Int.cast_neg, ← neg_sub', abs_neg]
  refine ⟨by rw [mirror]; exact rounds.near, ?_⟩
  intro m other tie
  have smaller := rounds.away (-m) (fun same => other (by omega)) (by rw [← mirror, neg_neg, tie])
  rwa [abs_neg] at smaller ⊢

/-- Two integers out of order could only be the two at a tie, and of those only one is the
rounding. -/
theorem mono (ordered : x ≤ y) (left : RoundsTo x m) (right : RoundsTo y n) : m ≤ n := by
  by_contra crossed
  have apart : (n : ℚ) + 1 ≤ m := by exact_mod_cast not_le.mp crossed
  obtain ⟨-, below⟩ := abs_le.mp left.near
  obtain ⟨above, -⟩ := abs_le.mp right.near
  have same : x = y := by linarith
  have upper : (m : ℚ) - x = 1 / 2 := by linarith
  have lower : (n : ℚ) - x = -(1 / 2) := by linarith
  have one := left.away n (by omega) (by rw [lower, abs_neg, abs_of_pos (by norm_num)])
  have other := right.away m (by omega) (by rw [← same, upper, abs_of_pos (by norm_num)])
  exact lt_asymm one other

theorem unique (one : RoundsTo x m) (other : RoundsTo x n) : m = n :=
  le_antisymm (one.mono le_rfl other) (other.mono le_rfl one)

theorem floor_half (nonneg : 0 ≤ x) : RoundsTo x ⌊x + 1 / 2⌋ := by
  have below := Int.floor_le (x + 1 / 2)
  have above := Int.lt_floor_add_one (x + 1 / 2)
  refine ⟨abs_le.mpr ⟨by linarith, by linarith⟩, ?_⟩
  intro m other tie
  rcases (abs_eq (by norm_num)).mp tie with higher | lower
  · have reached : x + 1 / 2 = m := by linarith
    exact absurd (by rw [reached, Int.floor_intCast]) other
  · have next : x + 1 / 2 = (m + 1 : ℤ) := by
      push_cast
      linarith
    have reach : ((-1 : ℤ) : ℚ) < m := by
      push_cast
      linarith
    have start : 0 ≤ m := Int.add_one_le_iff.mpr (Int.cast_lt.mp reach)
    rw [next, Int.floor_intCast, abs_of_nonneg start, abs_of_nonneg (by omega)]
    exact lt_add_one m

end RoundsTo

namespace Decimal

theorem round_of_neg {a : Decimal} (negative : a.digits < 0) : a.round = -a.neg.round := by
  have mirrored : ¬ a.neg.digits < 0 := by
    simp only [neg]
    omega
  rw [round, round, if_pos negative, if_neg mirrored]

theorem round_roundsTo (a : Decimal) : RoundsTo a.toRat a.round := by
  by_cases negative : a.digits < 0
  · have mirrored : 0 ≤ a.neg.toRat := toRat_nonneg.mpr (by simp only [neg]; omega)
    have rounds := (RoundsTo.floor_half mirrored).neg
    rwa [← round_of_nonneg mirrored, toRat_neg, neg_neg, ← round_of_neg negative] at rounds
  · have nonneg : 0 ≤ a.toRat := toRat_nonneg.mpr (not_lt.mp negative)
    rw [round_of_nonneg nonneg]
    exact RoundsTo.floor_half nonneg

end Decimal

/-- An amount is valued by the one product, whatever the price: where it is zero or no number, the
product is zero too. -/
theorem valueAt_eq (amount : Int) (price : Binary64) :
    valueAt amount price =
      ((Decimal.ofInt amount).mul (price.toDecimal?.getD .zero)).round := by
  have nothing : ∀ p : Decimal, p.isZero → ((Decimal.ofInt amount).mul p).round = 0 := by
    intro p empty
    have digits : p.digits = 0 := by simpa [Decimal.isZero] using empty
    have product : ((Decimal.ofInt amount).mul p).toRat = 0 := by
      simp [Decimal.mul, Decimal.toRat, digits]
    rw [Decimal.round_of_nonneg product.ge, product]
    norm_num
  unfold valueAt
  cases price.toDecimal? with
  | none => exact (nothing .zero rfl).symm
  | some p =>
    by_cases empty : p.isZero
    · simp [empty, nothing p empty]
    · simp [empty]

theorem valueAt_roundsTo (amount : Int) (price : Binary64) :
    RoundsTo (amount * price.toRat) (valueAt amount price) := by
  have rounds := Decimal.round_roundsTo ((Decimal.ofInt amount).mul (price.toDecimal?.getD .zero))
  rwa [Decimal.toRat_mul, Decimal.toRat_ofInt, Binary64.exact_decimal, ← valueAt_eq] at rounds

/-- The nearest integer of a decimal is at most a half away, of two as near the one farther from
zero; it is symmetric and never decreases. So the value of an amount at a price that is not negative
is symmetric in the amount and never decreases with it. -/
theorem Decimal.round_nearest :
    (∀ a : Decimal, |(a.round : ℚ) - a.toRat| ≤ 1 / 2) ∧
    (∀ (a : Decimal) (n : ℤ),
      n ≠ a.round → |(n : ℚ) - a.toRat| = 1 / 2 → |n| < |a.round|) ∧
    (∀ a : Decimal, a.neg.round = -a.round) ∧
    (∀ a b : Decimal, a.toRat ≤ b.toRat → a.round ≤ b.round) ∧
    ∀ price : Binary64, ¬ price.lt .zero →
      (∀ amount : Int, RoundsTo (amount * price.toRat) (valueAt amount price)) ∧
      (∀ amount : Int, valueAt (-amount) price = -valueAt amount price) ∧
      ∀ less more : Int, less ≤ more → valueAt less price ≤ valueAt more price := by
  refine ⟨fun a => a.round_roundsTo.near, fun a => a.round_roundsTo.away, ?_, ?_, ?_⟩
  · intro a
    refine RoundsTo.unique a.neg.round_roundsTo ?_
    rw [toRat_neg]
    exact a.round_roundsTo.neg
  · intro a b ordered
    exact a.round_roundsTo.mono ordered b.round_roundsTo
  · intro price nonneg
    refine ⟨fun amount => valueAt_roundsTo amount price, ?_, ?_⟩
    · intro amount
      refine (valueAt_roundsTo (-amount) price).unique ?_
      rw [Int.cast_neg, neg_mul]
      exact (valueAt_roundsTo amount price).neg
    · intro less more ordered
      have scaled : (less : ℚ) * price.toRat ≤ more * price.toRat :=
        mul_le_mul_of_nonneg_right (by exact_mod_cast ordered) (Binary64.toRat_nonneg nonneg)
      exact (valueAt_roundsTo less price).mono scaled (valueAt_roundsTo more price)

/-- Two and a half goes up to three and its mirror image down; so does five at a price of a half. -/
theorem Decimal.round_nearest_ties :
    (⟨25, 1⟩ : Decimal).round = 3 ∧ |(2 : ℤ)| < |(⟨25, 1⟩ : Decimal).round| ∧
    (⟨25, 1⟩ : Decimal).round ≤ (⟨3, -1⟩ : Decimal).round ∧
    valueAt 5 (.ofRatio false 1 2) = 3 ∧
    valueAt (-5) (.ofRatio false 1 2) = -valueAt 5 (.ofRatio false 1 2) ∧
    valueAt (-5) (.ofRatio false 1 2) ≤ valueAt 4 (.ofRatio false 1 2) := by
  obtain ⟨-, away, -, mono, valued⟩ := Decimal.round_nearest
  obtain ⟨-, odd, grows⟩ := valued (.ofRatio false 1 2) (by decide)
  refine ⟨by decide, away _ 2 (by decide) ?_, mono _ _ ?_, by decide, odd 5, grows _ _ (by decide)⟩
  · norm_num [Decimal.toRat]
  · norm_num [Decimal.toRat]

end PoolIndexer
