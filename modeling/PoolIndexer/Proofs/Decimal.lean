import Mathlib.Algebra.BigOperators.Group.List.Basic
import Mathlib.Algebra.Order.Round
import Mathlib.Data.Rat.Floor
import Mathlib.Tactic.FieldSimp
import Mathlib.Tactic.Linarith
import PoolIndexer.Decimal.Binary
import PoolIndexer.Proofs.Binary64

/-! Decimals as rational numbers. Sums, products and comparisons are those of the numbers, whatever
the scales, and so are the integer part and the nearest integer of a number that is not negative. -/
namespace PoolIndexer

@[simp] theorem cast_tenTo (n : Nat) : (tenTo n : ℚ) = 10 ^ n := by simp [tenTo]

@[simp] theorem cast_twoTo (n : Nat) : (twoTo n : ℚ) = 2 ^ n := by simp [twoTo]

theorem ten_pow_toNat {k : Int} (nonneg : 0 ≤ k) : (10 : ℚ) ^ k.toNat = 10 ^ k := by
  rw [← zpow_natCast, Int.toNat_of_nonneg nonneg]

theorem ten_zpow_pos (k : Int) : (0 : ℚ) < 10 ^ k := zpow_pos (by norm_num) k

namespace Decimal

/-- The number that a decimal stands for. -/
def toRat (a : Decimal) : ℚ := a.digits * 10 ^ (-a.scale)

@[simp] theorem toRat_ofInt (n : Int) : (ofInt n).toRat = n := by simp [toRat, ofInt]

@[simp] theorem toRat_zero : zero.toRat = 0 := by simp [zero]

theorem toRat_nonneg {a : Decimal} : 0 ≤ a.toRat ↔ 0 ≤ a.digits := by
  rw [toRat, mul_nonneg_iff_of_pos_right (ten_zpow_pos _), Int.cast_nonneg_iff]

/-- At a finer scale a number has as many digits more. -/
theorem digitsAt_eq {a : Decimal} {s : Int} (finer : a.scale ≤ s) :
    (a.digitsAt s : ℚ) = a.toRat * 10 ^ s := by
  have places : (10 : ℚ) ^ (s - a.scale).toNat = 10 ^ (-a.scale) * 10 ^ s := by
    rw [ten_pow_toNat (by omega), ← zpow_add₀ (by norm_num)]
    congr 1
    omega
  simp only [digitsAt, Int.cast_mul, Int.cast_natCast, cast_tenTo, places, toRat, mul_assoc]

@[simp] theorem toRat_add (a b : Decimal) : (a.add b).toRat = a.toRat + b.toRat := by
  have left := digitsAt_eq (le_max_left a.scale b.scale)
  have right := digitsAt_eq (le_max_right a.scale b.scale)
  have power : (10 : ℚ) ^ max a.scale b.scale * 10 ^ (-max a.scale b.scale) = 1 := by
    rw [← zpow_add₀ (by norm_num), add_neg_cancel, zpow_zero]
  calc (a.add b).toRat
      = (a.toRat * 10 ^ max a.scale b.scale + b.toRat * 10 ^ max a.scale b.scale) *
          10 ^ (-max a.scale b.scale) := by
        rw [← left, ← right, ← Int.cast_add]
        rfl
    _ = (a.toRat + b.toRat) * (10 ^ max a.scale b.scale * 10 ^ (-max a.scale b.scale)) := by ring
    _ = a.toRat + b.toRat := by rw [power, mul_one]

@[simp] theorem toRat_neg (a : Decimal) : a.neg.toRat = -a.toRat := by
  simp [toRat, neg]

@[simp] theorem toRat_sub (a b : Decimal) : (a.sub b).toRat = a.toRat - b.toRat := by
  rw [sub, toRat_add, toRat_neg, ← sub_eq_add_neg]

@[simp] theorem toRat_mul (a b : Decimal) : (a.mul b).toRat = a.toRat * b.toRat := by
  simp only [toRat, mul, Int.cast_mul, neg_add, zpow_add₀ (show (10 : ℚ) ≠ 0 by norm_num)]
  ring

theorem lt_iff {a b : Decimal} : a.lt b ↔ a.toRat < b.toRat := by
  have left := digitsAt_eq (le_max_left a.scale b.scale)
  have right := digitsAt_eq (le_max_right a.scale b.scale)
  rw [lt, decide_eq_true_iff, ← Int.cast_lt (R := ℚ), left, right]
  exact mul_lt_mul_iff_left₀ (ten_zpow_pos _)

theorem toRat_sum (xs : List Decimal) : (sum xs).toRat = (xs.map toRat).sum := by
  have running : ∀ start : Decimal,
      (xs.foldl add start).toRat = start.toRat + (xs.map toRat).sum := by
    induction xs with
    | nil => simp
    | cons x rest ih =>
      intro start
      rw [List.foldl_cons, ih, toRat_add, List.map_cons, List.sum_cons, add_assoc]
  simpa [sum] using running zero

/-! ## Integer parts -/

theorem truncate_of_nonneg {a : Decimal} (nonneg : 0 ≤ a.toRat) : a.truncate = ⌊a.toRat⌋ := by
  unfold truncate
  split
  · rename_i fraction
    have quotient : a.toRat = (a.digits : ℚ) / (tenTo a.scale.toNat : ℕ) := by
      rw [cast_tenTo, ten_pow_toNat fraction, toRat, zpow_neg, div_eq_mul_inv]
    rw [quotient, Rat.floor_intCast_div_natCast,
      Int.tdiv_eq_ediv_of_nonneg (toRat_nonneg.mp nonneg)]
  · rename_i whole
    have integer : a.toRat = (a.digits * tenTo (-a.scale).toNat : ℤ) := by
      rw [Int.cast_mul, Int.cast_natCast, cast_tenTo, ten_pow_toNat (by omega), toRat]
    rw [integer, Int.floor_intCast]

theorem toRat_half : half.toRat = 1 / 2 := by
  norm_num [toRat, half]

theorem round_of_nonneg {a : Decimal} (nonneg : 0 ≤ a.toRat) : a.round = ⌊a.toRat + 1 / 2⌋ := by
  have shifted : (a.add half).toRat = a.toRat + 1 / 2 := by rw [toRat_add, toRat_half]
  have above : 0 ≤ (a.add half).toRat := by
    rw [shifted]
    linarith
  rw [round, if_neg (not_lt.mpr (toRat_nonneg.mp nonneg)), truncate_of_nonneg above, shifted]

end Decimal

/-! ## Binary fractions -/

namespace Binary64

/-- The number that a binary64 stands for; what is not finite counts as nothing. -/
def toRat (x : Binary64) : ℚ :=
  if x.isFinite then (if x.negative then -1 else 1) * (x.significand * 2 ^ x.exponent) else 0

/-- Halving a significand and its power of two leaves the fraction as it is. -/
theorem halve_value (fuel m e : Nat) :
    ((toDecimal?.halve fuel m e).1 : ℚ) / 2 ^ (toDecimal?.halve fuel m e).2 = m / 2 ^ e := by
  induction fuel generalizing m e with
  | zero => rfl
  | succ fuel ih =>
    unfold toDecimal?.halve
    split
    · rename_i goes
      obtain ⟨k, rfl⟩ : ∃ k, m = 2 * k := ⟨m / 2, by omega⟩
      obtain ⟨f, rfl⟩ : ∃ f, e = f + 1 := ⟨e - 1, by omega⟩
      rw [ih, Nat.mul_div_cancel_left k (by decide), Nat.add_sub_cancel, pow_succ]
      push_cast
      field_simp
    · rfl

theorem toRat_of_not_isFinite {x : Binary64} (infinite : ¬ x.isFinite) : x.toRat = 0 :=
  if_neg infinite

theorem toRat_of_isZero {x : Binary64} (zero : x.isZero) : x.toRat = 0 := by
  have none : x.magnitude = 0 := by simpa [isZero] using zero
  have empty : x.significand = 0 := by simp [significand, none]
  simp [toRat, empty]

theorem toRat_signed (negative : Bool) (n : Nat) (scale : Int) :
    Decimal.toRat ⟨if negative then -(n : Int) else n, scale⟩ =
      (if negative then -1 else 1) * (n * 10 ^ (-scale)) := by
  cases negative <;> simp [Decimal.toRat]

/-- The decimal of a finite number is exact. -/
theorem exact_decimal (x : Binary64) : (x.toDecimal?.getD .zero).toRat = x.toRat := by
  by_cases finite : x.isFinite
  · by_cases zero : x.isZero
    · simp [toDecimal?, finite, zero, toRat_of_isZero]
    · simp only [toDecimal?, finite, zero, Bool.not_true, Bool.false_eq_true, if_false]
      rw [toRat, if_pos finite]
      split
      · rename_i whole
        have power : (2 : ℚ) ^ x.exponent.toNat = 2 ^ x.exponent := by
          rw [← zpow_natCast, Int.toNat_of_nonneg whole]
        rw [Option.getD_some, toRat_signed]
        simp [power]
      · rename_i fractional
        have power : (2 : ℚ) ^ x.exponent = (2 ^ (-x.exponent).toNat)⁻¹ := by
          rw [← zpow_natCast, ← zpow_neg, Int.toNat_of_nonneg (by omega), neg_neg]
        have halved := halve_value 53 x.significand (-x.exponent).toNat
        generalize toDecimal?.halve 53 x.significand (-x.exponent).toNat = fraction at halved ⊢
        obtain ⟨m, e⟩ := fraction
        -- tenths of as many fives are halves
        have halves : ((m * Nat.pow 5 e : ℕ) : ℚ) * 10 ^ (-(e : Int)) = m / 2 ^ e := by
          rw [zpow_neg, zpow_natCast, show (10 : ℚ) = 5 * 2 by norm_num, mul_pow]
          push_cast [Nat.pow_eq]
          field_simp
        rw [Option.getD_some, toRat_signed, halves, halved, power, div_eq_mul_inv]
  · simp [toDecimal?, finite, toRat_of_not_isFinite]

theorem toRat_nonneg {x : Binary64} (nonneg : ¬ x.lt .zero) : 0 ≤ x.toRat := by
  unfold toRat
  split
  · rename_i finite
    have size : (0 : ℚ) ≤ x.significand * 2 ^ x.exponent :=
      mul_nonneg (Nat.cast_nonneg _) (zpow_nonneg (by norm_num) _)
    cases negative : x.negative with
    | false => simpa using size
    | true =>
      -- the one number that has a sign and is not below zero is the negative zero
      have none : x.magnitude = 0 := by
        have number : zero.isNaN = false := not_isNaN (zero_isFinite false)
        have above : zero.rank ≤ x.rank := by simpa [lt, not_isNaN finite, number] using nonneg
        have origin : zero.rank = 0 := by decide
        rw [origin, rank, negative, if_pos rfl] at above
        omega
      have empty : x.significand = 0 := by simp [significand, none]
      simp [empty]
  · exact le_refl 0

end Binary64
end PoolIndexer
