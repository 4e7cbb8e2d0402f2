import PoolIndexer.Binary64

/-! Where binary64 numbers are finite: a ratio is exactly below the least number that is rounded to
infinity, and a product where its factors are small enough. -/
namespace PoolIndexer

/-! ## Powers of two -/

theorem twoTo_le {m n : Nat} (le : m ≤ n) : twoTo m ≤ twoTo n := Nat.pow_le_pow_right (by decide) le

theorem twoTo_log2_le {n : Nat} (nonzero : n ≠ 0) : twoTo n.log2 ≤ n := Nat.log2_self_le nonzero

theorem lt_twoTo_log2 (n : Nat) : n < twoTo (n.log2 + 1) := Nat.lt_log2_self

theorem log2_lt_of_lt {n k : Nat} (nonzero : n ≠ 0) (below : n < twoTo k) : n.log2 < k :=
  (Nat.log2_lt nonzero).mpr below

namespace Binary64

/-! ## Words -/

theorem infinityMagnitude_lt : infinityMagnitude < twoTo 63 := by decide

theorem magnitude_ofMagnitude {m : Nat} (fits : m < twoTo 63) (negative : Bool) :
    (ofMagnitude negative m).magnitude = m := by
  have size : twoTo 64 = twoTo 63 + twoTo 63 := by decide
  have word : (ofMagnitude negative m).bits.toNat = m + if negative then twoTo 63 else 0 := by
    have bound : (m + if negative then twoTo 63 else 0) < 2 ^ 64 := by
      change _ < twoTo 64
      split <;> omega
    simp only [ofMagnitude, UInt64.toNat_ofNat']
    exact Nat.mod_eq_of_lt bound
  rw [magnitude, word]
  cases negative with
  | false => exact Nat.mod_eq_of_lt fits
  | true =>
    simp only [if_true, Nat.add_mod_right]
    exact Nat.mod_eq_of_lt fits

theorem ofMagnitude_isFinite {m : Nat} (negative : Bool) :
    (ofMagnitude negative (Min.min m infinityMagnitude)).isFinite ↔ m < infinityMagnitude := by
  have fits : Min.min m infinityMagnitude < twoTo 63 :=
    Nat.lt_of_le_of_lt (Nat.min_le_right _ _) infinityMagnitude_lt
  rw [isFinite, magnitude_ofMagnitude fits, decide_eq_true_eq]
  omega

theorem zero_isFinite (negative : Bool) : (ofMagnitude negative 0).isFinite := by
  cases negative <;> decide

theorem not_isNaN {x : Binary64} (finite : x.isFinite) : x.isNaN = false := by
  simp only [isFinite, isNaN, decide_eq_true_eq, decide_eq_false_iff_not] at finite ⊢
  omega

/-! ## Rounding -/

theorem roundHalfEven_le {n d k : Nat} (positive : 0 < d) (le : n ≤ k * d) :
    roundHalfEven n d ≤ k := by
  have parts := Nat.div_add_mod n d
  have quotient : n / d ≤ k := Nat.div_le_of_le_mul (by rwa [Nat.mul_comm])
  unfold roundHalfEven
  dsimp only
  split
  · rename_i up
    rcases Nat.lt_or_eq_of_le quotient with below | same
    · exact below
    · -- nothing is left to be rounded where the bound itself is reached
      rw [same, Nat.mul_comm] at parts
      have exact : n % d = 0 := by omega
      omega
  · exact quotient

theorem le_roundHalfEven {n d k : Nat} (positive : 0 < d) (le : k * d ≤ n) :
    k ≤ roundHalfEven n d := by
  have quotient : k ≤ n / d := (Nat.le_div_iff_mul_le positive).mpr le
  unfold roundHalfEven
  dsimp only
  split
  · omega
  · exact quotient

/-- An even number is reached from half below it on. -/
theorem roundHalfEven_lt {n d k : Nat} (positive : 0 < d) (even : k % 2 = 0) :
    roundHalfEven n d < k ↔ 2 * n + d < 2 * (k * d) := by
  have parts : n / d * d + n % d = n := Nat.div_add_mod' n d
  have rest := Nat.mod_lt n positive
  have scale : ∀ j, n / d + j ≤ k → n / d * d + j * d ≤ k * d := by
    intro j le
    rw [← Nat.add_mul]
    exact Nat.mul_le_mul_right d le
  have above : k ≤ n / d + 1 → k * d ≤ n / d * d + d := by
    intro le
    have scaled := Nat.mul_le_mul_right d le
    rwa [Nat.add_mul, Nat.one_mul] at scaled
  unfold roundHalfEven
  dsimp only
  split
  · constructor
    · intro below
      have := scale 2 (by omega)
      omega
    · intro below
      refine Nat.lt_of_not_le fun notBelow => ?_
      have := above notBelow
      omega
  · constructor
    · intro below
      have one := scale 1 (by omega)
      -- at a tie the quotient is even, and so at least two below the bound
      by_cases tie : 2 * (n % d) = d
      · have := scale 2 (by omega)
        omega
      · omega
    · intro below
      refine Nat.lt_of_not_le fun notBelow => ?_
      have := Nat.mul_le_mul_right d notBelow
      omega

/-! ## Ratios -/

section

variable {n d : Nat}

theorem log2Ratio_near : log2Ratio n d = n.log2 - d.log2 ∨ log2Ratio n d = n.log2 - d.log2 - 1 := by
  unfold log2Ratio
  dsimp only
  by_cases reaches : (if 0 ≤ (n.log2 : Int) - d.log2 then
      d * twoTo ((n.log2 : Int) - d.log2).toNat ≤ n
    else d ≤ n * twoTo (-((n.log2 : Int) - d.log2)).toNat)
  · exact .inl (if_pos reaches)
  · exact .inr (if_neg reaches)

variable (nonzero : n ≠ 0) (divisor : d ≠ 0)
include nonzero divisor

/-- Of a ratio that is at least one, the logarithm is the integer part of the exact one. -/
theorem log2Ratio_bounds {l : Nat} (is : log2Ratio n d = l) :
    d * twoTo l ≤ n ∧ n < d * twoTo (l + 1) := by
  have lowN := twoTo_log2_le nonzero
  have highN := lt_twoTo_log2 n
  have lowD := twoTo_log2_le divisor
  have highD := lt_twoTo_log2 d
  unfold log2Ratio at is
  dsimp only at is
  by_cases reaches : (if 0 ≤ (n.log2 : Int) - d.log2 then
      d * twoTo ((n.log2 : Int) - d.log2).toNat ≤ n
    else d ≤ n * twoTo (-((n.log2 : Int) - d.log2)).toNat)
  · rw [if_pos reaches] at is
    have nonneg : 0 ≤ (n.log2 : Int) - d.log2 := by omega
    rw [if_pos nonneg, is, Int.toNat_natCast] at reaches
    refine ⟨reaches, Nat.lt_of_lt_of_le highN ?_⟩
    have split : n.log2 + 1 = d.log2 + (l + 1) := by omega
    rw [split, twoTo_add]
    exact Nat.mul_le_mul_right _ lowD
  · rw [if_neg reaches] at is
    have nonneg : 0 ≤ (n.log2 : Int) - d.log2 := by omega
    have exponent : ((n.log2 : Int) - d.log2).toNat = l + 1 := by omega
    rw [if_pos nonneg, exponent] at reaches
    refine ⟨Nat.le_trans (Nat.mul_le_mul_right _ (Nat.le_of_lt highD)) ?_, Nat.lt_of_not_le reaches⟩
    have split : n.log2 = d.log2 + 1 + l := by omega
    rwa [← twoTo_add, ← split]

end

/-- The binary place of the last bit that a ratio is rounded to. -/
def lastBit (n d : Nat) : Int := Max.max (log2Ratio n d - 52) (-1074)

/-- A ratio counted in its last bit. -/
def rounded (n d : Nat) : Nat :=
  if 0 ≤ lastBit n d then roundHalfEven n (d * twoTo (lastBit n d).toNat)
  else roundHalfEven (n * twoTo (-lastBit n d).toNat) d

/-- The least number that is rounded to infinity. -/
def overflow : Nat := (twoTo 54 - 1) * twoTo 970

theorem le_overflow : twoTo 1023 ≤ overflow := by
  rw [twoTo_add 53 970]
  exact Nat.mul_le_mul_right _ (by decide)

theorem overflow_le : overflow ≤ twoTo 1024 := by
  rw [twoTo_add 54 970]
  exact Nat.mul_le_mul_right _ (Nat.sub_le _ _)

section

variable {n d : Nat}

theorem ofRatio_eq (nonzero : n ≠ 0) (negative : Bool) :
    ofRatio negative n d = ofMagnitude negative
      (Min.min ((lastBit n d + 1074).toNat * twoTo 52 + rounded n d) infinityMagnitude) := by
  unfold ofRatio
  rw [if_neg nonzero]
  rfl

variable (divisor : d ≠ 0)
include divisor

theorem rounded_le : rounded n d ≤ twoTo 54 := by
  have positive := Nat.pos_of_ne_zero divisor
  have highN := lt_twoTo_log2 n
  have lowD := twoTo_log2_le divisor
  have near : (n.log2 : Int) + 1 ≤ lastBit n d + 54 + d.log2 := by
    unfold lastBit
    rcases log2Ratio_near (n := n) (d := d) with is | is <;> omega
  unfold rounded
  split
  · rename_i whole
    refine roundHalfEven_le (Nat.mul_pos positive (twoTo_pos _)) ?_
    calc n ≤ twoTo (n.log2 + 1) := Nat.le_of_lt highN
      _ ≤ twoTo (54 + (d.log2 + (lastBit n d).toNat)) := twoTo_le (by omega)
      _ = twoTo 54 * (twoTo d.log2 * twoTo (lastBit n d).toNat) := by rw [twoTo_add, twoTo_add]
      _ ≤ twoTo 54 * (d * twoTo (lastBit n d).toNat) :=
        Nat.mul_le_mul_left _ (Nat.mul_le_mul_right _ lowD)
  · rename_i fractional
    refine roundHalfEven_le positive ?_
    calc n * twoTo (-lastBit n d).toNat
        ≤ twoTo (n.log2 + 1) * twoTo (-lastBit n d).toNat :=
          Nat.mul_le_mul_right _ (Nat.le_of_lt highN)
      _ = twoTo (n.log2 + 1 + (-lastBit n d).toNat) := (twoTo_add _ _).symm
      _ ≤ twoTo (54 + d.log2) := twoTo_le (by omega)
      _ = twoTo 54 * twoTo d.log2 := twoTo_add _ _
      _ ≤ twoTo 54 * d := Nat.mul_le_mul_left _ lowD

theorem lt_overflow (small : lastBit n d ≤ 968) : n < overflow * d := by
  have near : n.log2 + 1 ≤ 1023 + d.log2 := by
    unfold lastBit at small
    rcases log2Ratio_near (n := n) (d := d) with is | is <;> omega
  calc n < twoTo (n.log2 + 1) := lt_twoTo_log2 n
    _ ≤ twoTo (1023 + d.log2) := twoTo_le near
    _ = twoTo 1023 * twoTo d.log2 := twoTo_add _ _
    _ ≤ overflow * d := Nat.mul_le_mul le_overflow (twoTo_log2_le divisor)

variable (nonzero : n ≠ 0)
include nonzero

/-- Where the last bit is worth a power of two, the ratio is counted in it exactly. -/
theorem rounded_eq {b : Nat} (is : lastBit n d = b) :
    rounded n d = roundHalfEven n (d * twoTo b) ∧
      twoTo 52 * (d * twoTo b) ≤ n ∧ n < twoTo 53 * (d * twoTo b) := by
  have logarithm : log2Ratio n d = (b + 52 : Nat) := by
    unfold lastBit at is
    omega
  obtain ⟨low, high⟩ := log2Ratio_bounds nonzero divisor logarithm
  refine ⟨?_, ?_, ?_⟩
  · rw [rounded, if_pos (by omega), is, Int.toNat_natCast]
  · rw [Nat.mul_left_comm, ← twoTo_add, Nat.add_comm 52]
    exact low
  · rw [Nat.mul_left_comm, ← twoTo_add, Nat.add_comm 53]
    exact high

theorem lt_overflow_of_le {b : Nat} (is : lastBit n d = b) (below : b ≤ 970) :
    n < overflow * d := by
  obtain ⟨_, _, high⟩ := rounded_eq divisor nonzero is
  calc n < twoTo 53 * (d * twoTo b) := high
    _ = twoTo (53 + b) * d := by rw [twoTo_add, Nat.mul_comm d, Nat.mul_assoc]
    _ ≤ overflow * d := Nat.mul_le_mul_right d (Nat.le_trans (twoTo_le (by omega)) le_overflow)

theorem overflow_le_of_le {b : Nat} (is : lastBit n d = b) (above : 972 ≤ b) :
    overflow * d ≤ n := by
  obtain ⟨_, low, _⟩ := rounded_eq divisor nonzero is
  calc overflow * d
      ≤ twoTo (52 + b) * d :=
        Nat.mul_le_mul_right d (Nat.le_trans overflow_le (twoTo_le (by omega)))
    _ = twoTo 52 * (d * twoTo b) := by rw [twoTo_add, Nat.mul_comm d, Nat.mul_assoc]
    _ ≤ n := low

/-- At the greatest exponent it is the rounding that decides. -/
theorem rounded_lt_iff (is : lastBit n d = (971 : Nat)) :
    rounded n d < twoTo 53 ↔ n < overflow * d := by
  have unit : 0 < d * twoTo 971 := Nat.mul_pos (Nat.pos_of_ne_zero divisor) (twoTo_pos 971)
  have half : d * twoTo 971 = 2 * (twoTo 970 * d) := by
    rw [twoTo_add 1 970, Nat.mul_comm d, Nat.mul_assoc]
    rfl
  have limit : overflow * d = (twoTo 54 - 1) * (twoTo 970 * d) := Nat.mul_assoc _ _ _
  have double : twoTo 54 = 2 * twoTo 53 := by decide
  have mantissa : twoTo 53 = 9007199254740992 := by decide
  rw [(rounded_eq divisor nonzero is).1, roundHalfEven_lt unit (by decide), limit, half, double,
    mantissa]
  omega

/-- A ratio is finite up to half a last bit past the greatest finite number. -/
theorem ofRatio_isFinite (negative : Bool) :
    (ofRatio negative n d).isFinite ↔ n < overflow * d := by
  have limit : infinityMagnitude = 2047 * twoTo 52 := rfl
  have bit := twoTo_pos 52
  have scaled : ∀ {j k : Nat}, j ≤ k → j * twoTo 52 ≤ k * twoTo 52 :=
    fun le => Nat.mul_le_mul_right _ le
  rw [ofRatio_eq nonzero, ofMagnitude_isFinite, limit]
  -- up to here a ratio is finite whatever it is rounded to; from here on its last bit is worth a
  -- power of two, so that what it is rounded to is known
  by_cases small : lastBit n d ≤ 968
  · have coarse := rounded_le (n := n) divisor
    have quadruple : twoTo 54 = 4 * twoTo 52 := by decide
    have exponent := scaled (show (lastBit n d + 1074).toNat ≤ 2042 by omega)
    have below := lt_overflow divisor small
    omega
  · obtain ⟨b, is⟩ : ∃ b : Nat, lastBit n d = b := ⟨(lastBit n d).toNat, by omega⟩
    obtain ⟨counted, low, high⟩ := rounded_eq divisor nonzero is
    have unit : 0 < d * twoTo b := Nat.mul_pos (Nat.pos_of_ne_zero divisor) (twoTo_pos b)
    have exponent : (lastBit n d + 1074).toNat = b + 1074 := by omega
    have double : twoTo 53 = 2 * twoTo 52 := by decide
    rw [exponent]
    rcases Nat.lt_trichotomy b 971 with below | same | above
    · have exponent := scaled (show b + 1074 ≤ 2044 by omega)
      have mantissa := roundHalfEven_le unit (Nat.le_of_lt high)
      rw [← counted] at mantissa
      have below := lt_overflow_of_le divisor nonzero is (by omega)
      omega
    · subst same
      rw [← rounded_lt_iff divisor nonzero is]
      omega
    · have exponent := scaled (show 2046 ≤ b + 1074 by omega)
      have mantissa := le_roundHalfEven unit low
      rw [← counted] at mantissa
      have above := overflow_le_of_le divisor nonzero is (by omega)
      omega

end

theorem ofRatio_zero (negative : Bool) (d : Nat) :
    ofRatio negative 0 d = ofMagnitude negative 0 := rfl

theorem ofRatio_isFinite_of_lt {n d : Nat} (divisor : d ≠ 0) (below : n < twoTo 1023)
    (negative : Bool) : (ofRatio negative n d).isFinite := by
  by_cases none : n = 0
  · rw [none, ofRatio_zero]
    exact zero_isFinite negative
  · rw [ofRatio_isFinite divisor none]
    calc n < twoTo 1023 := below
      _ ≤ overflow := le_overflow
      _ ≤ overflow * d := Nat.le_mul_of_pos_right _ (Nat.pos_of_ne_zero divisor)

theorem ofRatio_not_isNaN (negative : Bool) (n d : Nat) :
    (ofRatio negative n d).isNaN = false := by
  by_cases none : n = 0
  · rw [none, ofRatio_zero]
    exact not_isNaN (zero_isFinite negative)
  · rw [ofRatio_eq none, isNaN, magnitude_ofMagnitude
      (Nat.lt_of_le_of_lt (Nat.min_le_right _ _) infinityMagnitude_lt)]
    simp only [decide_eq_false_iff_not, Nat.not_lt]
    exact Nat.min_le_right _ _

/-! ## Products -/

theorem ofRatio_magnitude {n k : Nat} (below : n < twoTo k) (negative : Bool) :
    (ofRatio negative n 1).magnitude ≤ (k + 1025) * twoTo 52 := by
  by_cases none : n = 0
  · rw [none, ofRatio_zero, magnitude_ofMagnitude (twoTo_pos 63)]
    exact Nat.zero_le _
  · have coarse := rounded_le (n := n) Nat.one_ne_zero
    have quadruple : twoTo 54 = 4 * twoTo 52 := by decide
    have bits := log2_lt_of_lt none below
    have place : lastBit n 1 ≤ n.log2 - 52 := by
      have single : Nat.log2 1 = 0 := by decide
      unfold lastBit
      rcases log2Ratio_near (n := n) (d := 1) with is | is <;> omega
    have exponent := Nat.mul_le_mul_right (twoTo 52)
      (show (lastBit n 1 + 1074).toNat ≤ k + 1021 by omega)
    rw [ofRatio_eq none, magnitude_ofMagnitude
      (Nat.lt_of_le_of_lt (Nat.min_le_right _ _) infinityMagnitude_lt)]
    refine Nat.le_trans (Nat.min_le_left _ _) ?_
    have room : (k + 1025) * twoTo 52 = (k + 1021) * twoTo 52 + 4 * twoTo 52 :=
      Nat.add_mul (k + 1021) 4 _
    omega

theorem significand_lt (x : Binary64) : x.significand < twoTo 53 := by
  have double : twoTo 53 = 2 * twoTo 52 := by decide
  have fraction := Nat.mod_lt x.magnitude (twoTo_pos 52)
  unfold significand
  split
  · rename_i subnormal
    have small := Nat.lt_of_div_eq_zero (twoTo_pos 52) subnormal
    omega
  · omega

theorem exponent_le {x : Binary64} {k : Nat} (bound : x.magnitude ≤ (k + 1025) * twoTo 52) :
    x.exponent ≤ k - 50 := by
  have quotient : x.magnitude / twoTo 52 ≤ k + 1025 :=
    Nat.div_le_of_le_mul (by rwa [Nat.mul_comm])
  unfold exponent
  omega

theorem ofDyadic_isFinite {n k : Nat} {e : Int} (below : n < twoTo k) (fits : k + e ≤ 1023)
    (few : k ≤ 1023) (negative : Bool) : (ofDyadic negative n e).isFinite := by
  unfold ofDyadic
  split
  · refine ofRatio_isFinite_of_lt Nat.one_ne_zero ?_ negative
    calc n * twoTo e.toNat < twoTo k * twoTo e.toNat :=
          Nat.mul_lt_mul_of_pos_right below (twoTo_pos _)
      _ = twoTo (k + e.toNat) := (twoTo_add _ _).symm
      _ ≤ twoTo 1023 := twoTo_le (by omega)
  · exact ofRatio_isFinite_of_lt (Nat.ne_of_gt (twoTo_pos _))
      (Nat.lt_of_lt_of_le below (twoTo_le few)) negative

theorem mul_isFinite {x y : Binary64} (finiteX : x.isFinite) (finiteY : y.isFinite) {j k : Nat}
    (boundX : x.magnitude ≤ (j + 1025) * twoTo 52) (boundY : y.magnitude ≤ (k + 1025) * twoTo 52)
    (fits : j + k ≤ 1017) : (x.mul y).isFinite := by
  have exponentX := exponent_le boundX
  have exponentY := exponent_le boundY
  have product : x.significand * y.significand < twoTo 106 := by
    rw [twoTo_add 53 53]
    exact Nat.mul_lt_mul'' (significand_lt x) (significand_lt y)
  simp only [mul, not_isNaN finiteX, not_isNaN finiteY, finiteX, finiteY, Bool.or_self,
    Bool.false_eq_true, if_false, Bool.and_self, if_true]
  exact ofDyadic_isFinite product (by omega) (by omega) _

end Binary64
end PoolIndexer
