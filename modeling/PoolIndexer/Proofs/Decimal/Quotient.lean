import PoolIndexer.Proofs.Decimal
import PoolIndexer.Proofs.Division

/-! Quotients against the exact ones. A quotient has the digits of the exact one, cut or rounded up
at its last place, and unless it is exact it has all the digits of the precision. An integer below
the precision is therefore never exceeded by its quotient by a number of one or more. -/
namespace PoolIndexer.Decimal

/-! ## Long division -/

theorem next_place (scale : Int) : (10 : ℚ) * 10 ^ (-(scale + 1)) = 10 ^ (-scale) := by
  have both := zpow_add₀ (show (10 : ℚ) ≠ 0 by norm_num) 1 (-(scale + 1))
  rw [zpow_one] at both
  rw [← both]
  congr 1
  omega

theorem widen_value (d fuel n : Nat) (scale : Int) :
    ((widen d fuel n scale).1 : ℚ) * 10 ^ (-(widen d fuel n scale).2) = n * 10 ^ (-scale) := by
  induction fuel generalizing n scale with
  | zero => rfl
  | succ fuel ih =>
    unfold widen
    split
    · rw [ih, ← next_place scale]
      push_cast
      ring
    · rfl

/-- With enough factors the divisor fits. -/
theorem widen_reaches {d : Nat} (fuel n : Nat) (scale : Int) (enough : d ≤ n * 10 ^ fuel) :
    d ≤ (widen d fuel n scale).1 := by
  induction fuel generalizing n scale with
  | zero => simpa [widen] using enough
  | succ fuel ih =>
    unfold widen
    split
    · apply ih
      rwa [Nat.mul_comm 10, Nat.mul_assoc, ← Nat.pow_succ']
    · rename_i fits
      exact Nat.le_of_not_lt fits

/-- A digit moves from the remainder to the quotient at every step. -/
theorem longDivision_value {d : Nat} (more q r : Nat) (scale : Int) :
    ((longDivision d more q r scale).1 * d + (longDivision d more q r scale).2.1 : ℚ) *
      10 ^ (-(longDivision d more q r scale).2.2) = (q * d + r) * 10 ^ (-scale) := by
  induction more generalizing q r scale with
  | zero => rfl
  | succ more ih =>
    unfold longDivision
    split
    · rfl
    · have digit : ((10 * r / d : ℕ) * d + (10 * r % d : ℕ) : ℚ) = 10 * r := by
        exact_mod_cast Nat.div_add_mod' (10 * r) d
      rw [ih, ← next_place scale]
      generalize (10 : ℚ) ^ (-(scale + 1)) = place
      calc (((10 * q + 10 * r / d : ℕ) : ℚ) * d + (10 * r % d : ℕ)) * place
          = (10 * (q * d) + ((10 * r / d : ℕ) * d + (10 * r % d : ℕ))) * place := by
            push_cast
            ring
        _ = (q * d + r) * (10 * place) := by
            rw [digit]
            ring

theorem longDivision_rest {d : Nat} (positive : 0 < d) (more q r : Nat) (scale : Int)
    (rest : r < d) : (longDivision d more q r scale).2.1 < d := by
  induction more generalizing q r scale with
  | zero => exact rest
  | succ more ih =>
    unfold longDivision
    split
    · exact rest
    · exact ih _ _ _ (Nat.mod_lt _ positive)

/-- A division that does not end gives as many digits as are asked for. -/
theorem longDivision_long {d : Nat} (more q r k : Nat) (scale : Int) (long : 10 ^ k ≤ q) :
    (longDivision d more q r scale).2.1 = 0 ∨
      10 ^ (k + more) ≤ (longDivision d more q r scale).1 := by
  induction more generalizing q r k scale with
  | zero => exact .inr long
  | succ more ih =>
    unfold longDivision
    split
    · exact .inl ‹_›
    · rw [← Nat.succ_add_eq_add_succ]
      apply ih
      calc 10 ^ (k + 1) = 10 * 10 ^ k := Nat.pow_succ'
        _ ≤ 10 * q := Nat.mul_le_mul_left 10 long
        _ ≤ 10 * q + 10 * r / d := Nat.le_add_right _ _

/-! ## The quotient of two integers -/

theorem precise_long {q : Nat} (positive : 0 < q) :
    ∃ k, 10 ^ k ≤ q ∧ precision - 1 ≤ k + (precision - (Numeral.digits q).length) := by
  have filled : 0 < (Numeral.digits q).length := List.length_pos_iff.mpr Nat.toDigits_ne_nil
  refine ⟨(Numeral.digits q).length - 1, ?_, by omega⟩
  by_cases single : (Numeral.digits q).length = 1
  · rw [single]
    exact positive
  · refine Nat.le_of_not_lt fun below => ?_
    have short := (Nat.length_toDigits_le_iff (by decide) (by omega)).mpr below
    have length : (Nat.toDigits 10 q).length = (Numeral.digits q).length := rfl
    omega

/-- A quotient is what a long division leaves, rounded by the digit after its last one. Unless the
division ends it goes on for as many digits as the precision. -/
theorem quotient_divides {n d : Nat} (filled : 0 < n) (positive : 0 < d) (scale : Int) :
    ∃ q r s, quotient n d scale = (if 5 ≤ 10 * r / d then q + 1 else q, s) ∧ r < d ∧
      (q * d + r : ℚ) * 10 ^ (-s) = n * 10 ^ (-scale) ∧ (r = 0 ∨ 10 ^ (precision - 1) ≤ q) := by
  have enough : d ≤ n * 10 ^ (d.log2 + 1) := by
    have below : d < 2 ^ (d.log2 + 1) := Nat.lt_log2_self
    have wide : 2 ^ (d.log2 + 1) ≤ 10 ^ (d.log2 + 1) := Nat.pow_le_pow_left (by decide) _
    exact below.le.trans (wide.trans (Nat.le_mul_of_pos_left _ filled))
  have fits := widen_reaches (d.log2 + 1) n scale enough
  have value := widen_value d (d.log2 + 1) n scale
  unfold quotient
  dsimp only
  generalize widen d (d.log2 + 1) n scale = widened at fits value ⊢
  obtain ⟨m, s⟩ := widened
  dsimp only at fits value ⊢
  obtain ⟨k, long, precise⟩ := precise_long (Nat.div_pos fits positive)
  generalize precision - (Numeral.digits (m / d)).length = more at precise ⊢
  have whole : ((m / d : ℕ) * d + (m % d : ℕ) : ℚ) = m := by
    exact_mod_cast Nat.div_add_mod' m d
  refine ⟨_, _, _, rfl, longDivision_rest positive more _ _ s (Nat.mod_lt _ positive), ?_, ?_⟩
  · rw [longDivision_value, whole, value]
  · exact (longDivision_long more _ _ k s long).imp_right
      (Nat.pow_le_pow_right (by decide) precise).trans

theorem floor_mixed {q r d : Nat} (rest : r < d) : ⌊(q + r / d : ℚ)⌋ = q := by
  have divisor : (0 : ℚ) < d := by exact_mod_cast Nat.zero_lt_of_lt rest
  have below : (r / d : ℚ) < 1 := by
    rw [div_lt_one divisor]
    exact_mod_cast rest
  rw [Int.floor_natCast_add, Int.floor_eq_zero_iff.mpr ⟨by positivity, below⟩, add_zero]

theorem ceil_mixed {q r d : Nat} (rest : r < d) (some : r ≠ 0) : ⌈(q + r / d : ℚ)⌉ = q + 1 := by
  have divisor : (0 : ℚ) < d := by exact_mod_cast Nat.zero_lt_of_lt rest
  have above : (0 : ℚ) < r / d := div_pos (by exact_mod_cast Nat.pos_of_ne_zero some) divisor
  have below : (r / d : ℚ) ≤ 1 := by
    rw [div_le_one divisor]
    exact_mod_cast rest.le
  rw [Int.ceil_eq_iff]
  push_cast
  constructor <;> linarith

/-- The quotient is the exact one up to its last place, where it is cut or rounded up. Unless it is
the exact one it has as many digits as the precision. -/
theorem quotient_near {n d : Nat} (filled : 0 < n) (positive : 0 < d) (scale : Int) :
    ∃ x : ℚ, x * 10 ^ (-(quotient n d scale).2) = n / d * 10 ^ (-scale) ∧
      ⌊x⌋ ≤ (quotient n d scale).1 ∧ (quotient n d scale).1 ≤ ⌈x⌉ ∧
      ((quotient n d scale).1 = x ∨ (10 : ℚ) ^ (precision - 1) ≤ x) := by
  obtain ⟨q, r, s, same, rest, value, ends⟩ := quotient_divides filled positive scale
  have divisor : (d : ℚ) ≠ 0 := by exact_mod_cast positive.ne'
  rw [same]
  refine ⟨q + r / d, ?_, ?_⟩
  · rw [div_mul_eq_mul_div, ← value]
    field_simp
  · rw [floor_mixed rest]
    by_cases exact : r = 0
    · simp [exact]
    · have long : (10 : ℚ) ^ (precision - 1) ≤ q := by exact_mod_cast ends.resolve_left exact
      have part : (0 : ℚ) ≤ r / d := by positivity
      rw [ceil_mixed rest exact]
      refine ⟨?_, ?_, .inr (by linarith)⟩
      · split <;> omega
      · split <;> omega

/-! ## Quotients by a number of one or more -/

/-- The quotient of an integer within the precision does not exceed it: what is rounded up at a
place after the point is less than the integer there, and a quotient that is rounded at a place
before the point is above the precision. -/
theorem quotient_le {n d : Nat} (filled : 0 < n) (positive : 0 < d) (few : n < 10 ^ precision)
    {scale : Int} (less : (n / d : ℚ) * 10 ^ (-scale) ≤ n) :
    ((quotient n d scale).1 : ℚ) * 10 ^ (-(quotient n d scale).2) ≤ n := by
  obtain ⟨x, value, -, ceil, ends⟩ := quotient_near filled positive scale
  generalize quotient n d scale = result at value ceil ends ⊢
  obtain ⟨q, s⟩ := result
  dsimp only at value ceil ends ⊢
  rw [← value] at less
  rcases ends with exact | long
  · rwa [exact]
  · have place : 0 ≤ s := by
      by_contra whole
      have ten : (10 : ℚ) ^ (1 : ℤ) ≤ 10 ^ (-s) := zpow_le_zpow_right₀ (by norm_num) (by omega)
      have much : (10 : ℚ) ^ precision ≤ x * 10 ^ (-s) :=
        calc (10 : ℚ) ^ precision = 10 ^ (precision - 1) * 10 ^ (1 : ℤ) := by
              rw [zpow_one, ← pow_succ]
              rfl
          _ ≤ x * 10 ^ (-s) := mul_le_mul long ten (by norm_num)
              ((pow_nonneg (by norm_num) _).trans long)
      have reached : (10 ^ precision : ℕ) ≤ n := by exact_mod_cast much.trans less
      omega
    have integer : ((n * 10 ^ s.toNat : ℤ) : ℚ) = n * 10 ^ s := by
      push_cast
      rw [ten_pow_toNat place]
    have power := ten_zpow_pos s
    rw [zpow_neg, ← div_eq_mul_inv, div_le_iff₀ power, ← integer] at less ⊢
    exact_mod_cast ceil.trans (Int.ceil_le.mpr less)

theorem scale_le {b : Decimal} (large : 1 ≤ b.toRat) : (10 : ℚ) ^ b.scale ≤ b.digits := by
  rwa [toRat, zpow_neg, ← div_eq_mul_inv, one_le_div (ten_zpow_pos _)] at large

/-- Dividing an amount by a number of one or more leaves at most the amount, and nothing below
zero. -/
theorem div_between {amount : Int} {b : Decimal} (nonneg : 0 ≤ amount)
    (few : amount < 10 ^ precision) (large : 1 ≤ b.toRat) :
    ∃ a, (ofInt amount).div b = .ok a ∧ 0 ≤ a.toRat ∧ a.toRat ≤ amount := by
  have cast : (0 : ℚ) ≤ amount := by exact_mod_cast nonneg
  have places := scale_le large
  have positive : 0 < b.digits := by exact_mod_cast (ten_zpow_pos b.scale).trans_le places
  have divides : b.isZero = false := by simpa [isZero] using positive.ne'
  unfold div
  rw [divides]
  simp only [Bool.false_eq_true, if_false]
  split
  · exact ⟨_, rfl, by rwa [toRat_ofInt], (toRat_ofInt amount).le⟩
  · rename_i regular
    have filled : 0 < amount := by
      refine lt_of_le_of_ne nonneg fun none => regular ?_
      simp [isZero, ofInt, ← none]
    split
    · rename_i same
      -- digits that are the same leave a power of ten
      refine ⟨_, rfl, ?_, ?_⟩
      · simpa [toRat] using (ten_zpow_pos _).le
      · rw [← same] at places
        simpa [toRat, ofInt] using places
    · obtain ⟨n, rfl⟩ := Int.eq_ofNat_of_zero_le nonneg
      obtain ⟨d, digits⟩ := Int.eq_ofNat_of_zero_le positive.le
      have divisor : 0 < d := by omega
      have less : (n / d : ℚ) * 10 ^ (-(0 - b.scale)) ≤ n := by
        rw [digits, Int.cast_natCast] at places
        have cast : (0 : ℚ) < d := by exact_mod_cast divisor
        rw [zero_sub, neg_neg, div_mul_eq_mul_div, div_le_iff₀ cast]
        exact mul_le_mul_of_nonneg_left places (Nat.cast_nonneg n)
      have unsigned : ¬ (n : Int) < 0 := by omega
      have unsigned' : ¬ (d : Int) < 0 := by omega
      refine ⟨_, rfl, ?_, ?_⟩
      · rw [toRat_nonneg]
        simp [ofInt, digits, unsigned, unsigned']
      · have bounded := quotient_le (by omega) divisor (by exact_mod_cast few) less
        simpa [toRat, ofInt, digits, unsigned, unsigned'] using bounded

end PoolIndexer.Decimal
