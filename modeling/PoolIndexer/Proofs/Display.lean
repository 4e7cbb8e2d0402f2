import PoolIndexer.Decimal.Binary
import PoolIndexer.Proofs.Binary64
import PoolIndexer.Proofs.Division

/-! Display values: one is finite exactly where the amount in whole units, rounded, is below the
least number that has no binary64. -/
namespace PoolIndexer.Decimal

/-! ## Decimals of few digits -/

theorem tenTo_le {m n : Nat} (le : m ≤ n) : tenTo m ≤ tenTo n := Nat.pow_le_pow_right (by decide) le

theorem droppedBlocks_le {n : Nat} (few : n.log2 ≤ 400) : 19 * droppedBlocks n ≤ 121 := by
  unfold droppedBlocks digitBound
  omega

/-- A power of ten that is not too great. -/
theorem ofDecimal_power {k : Int} (nonneg : 0 ≤ k) (le : k ≤ 121) :
    Binary64.ofDecimal false 1 k = .ofRatio false (tenTo k.toNat) 1 := by
  unfold Binary64.ofDecimal
  rw [if_neg Nat.one_ne_zero, if_neg (by omega), if_neg (by omega), if_pos nonneg, Nat.one_mul]

theorem ofDecimal_fraction {n : Nat} {k : Int} (negative : Bool) (below : n < twoTo 1023)
    (fraction : k < 0) : (Binary64.ofDecimal negative n k).isFinite := by
  unfold Binary64.ofDecimal
  split
  · exact Binary64.zero_isFinite negative
  · rw [if_neg (by omega), if_neg (by omega : ¬ 0 ≤ k)]
    split
    · exact Binary64.zero_isFinite negative
    · exact Binary64.ofRatio_isFinite_of_lt (Nat.ne_of_gt (tenTo_pos _)) below negative

theorem toBinary64_isFinite {a : Decimal} (few : a.digits.natAbs < twoTo 401)
    (fraction : 0 ≤ a.scale) : a.toBinary64.isFinite := by
  have wide : twoTo 401 ≤ twoTo 1023 := twoTo_le (by decide)
  unfold toBinary64
  dsimp only
  split
  · exact Binary64.zero_isFinite false
  · rename_i nonzero
    split
    · exact Binary64.ofRatio_isFinite_of_lt Nat.one_ne_zero (Nat.lt_of_lt_of_le few wide) _
    · have bits := log2_lt_of_lt nonzero few
      have dropped := droppedBlocks_le (show a.digits.natAbs.log2 ≤ 400 by omega)
      have cut : a.digits.natAbs / tenTo (19 * droppedBlocks a.digits.natAbs) < twoTo 401 :=
        Nat.lt_of_le_of_lt (Nat.div_le_self _ _) few
      split
      · rename_i whole
        -- the digits that were cut come back as a power of ten, which is small for so few of them
        rw [ofDecimal_power (by omega) (by omega)]
        have power : tenTo (-(a.scale - 19 * droppedBlocks a.digits.natAbs)).toNat < twoTo 410 :=
          Nat.lt_of_le_of_lt (tenTo_le (by omega : _ ≤ 121)) (by decide +kernel)
        refine Binary64.mul_isFinite ?_ ?_ (Binary64.ofRatio_magnitude cut _)
          (Binary64.ofRatio_magnitude power _) (by decide)
        · exact Binary64.ofRatio_isFinite_of_lt Nat.one_ne_zero (Nat.lt_of_lt_of_le cut wide) _
        · exact Binary64.ofRatio_isFinite_of_lt Nat.one_ne_zero
            (Nat.lt_of_lt_of_le power (twoTo_le (by decide))) _
      · exact ofDecimal_fraction _ (Nat.lt_of_lt_of_le cut wide) (by omega)

theorem toBinary64_integer {a : Decimal} (nonzero : a.digits.natAbs ≠ 0) (integer : a.scale = 0) :
    a.toBinary64 = .ofRatio (decide (a.digits < 0)) a.digits.natAbs 1 := by
  unfold toBinary64
  dsimp only
  rw [if_neg nonzero, if_pos integer]

/-! ## Quotients -/

theorem widen_of_le {n d : Nat} (le : d ≤ n) (fuel : Nat) (scale : Int) :
    widen d fuel n scale = (n, scale) := by
  cases fuel with
  | zero => rfl
  | succ fuel => simp [widen, Nat.not_lt.mpr le]

theorem widen_bounds (d fuel n : Nat) (scale : Int) :
    (widen d fuel n scale).1 ≤ Max.max n (10 * d) ∧ scale ≤ (widen d fuel n scale).2 := by
  induction fuel generalizing n scale with
  | zero => exact ⟨Nat.le_max_left _ _, Int.le_refl _⟩
  | succ fuel ih =>
    unfold widen
    split
    · obtain ⟨size, finer⟩ := ih (10 * n) (scale + 1)
      constructor
      · omega
      · omega
    · exact ⟨Nat.le_max_left _ _, Int.le_refl _⟩

/-- Every step of a long division puts one digit behind the others. -/
theorem longDivision_bounds {d : Nat} (positive : 0 < d) (more q r : Nat) (scale : Int)
    (rest : r < d) :
    (longDivision d more q r scale).1 + 1 ≤ (q + 1) * tenTo more ∧
      scale ≤ (longDivision d more q r scale).2.2 := by
  induction more generalizing q r scale with
  | zero => exact ⟨by simp [longDivision, tenTo], Int.le_refl _⟩
  | succ more ih =>
    unfold longDivision
    split
    · exact ⟨Nat.le_mul_of_pos_right _ (tenTo_pos _), Int.le_refl _⟩
    · obtain ⟨size, finer⟩ :=
        ih (10 * q + 10 * r / d) (10 * r % d) (scale + 1) (Nat.mod_lt _ positive)
      have digit : 10 * r / d < 10 := (Nat.div_lt_iff_lt_mul positive).mpr (by omega)
      have wider : (10 * q + 10 * r / d + 1) * tenTo more ≤ (q + 1) * tenTo (more + 1) := by
        rw [Nat.add_comm more, tenTo_add, ← Nat.mul_assoc]
        refine Nat.mul_le_mul_right _ ?_
        change _ ≤ (q + 1) * 10
        omega
      exact ⟨Nat.le_trans size wider, by omega⟩

/-- With its digits and those that the precision leaves, a number stays below the precision unless
it is above it already. -/
theorem digits_bound (q : Nat) :
    (q + 1) * tenTo (precision - (Numeral.digits q).length)
      ≤ Max.max (q + 1) (tenTo precision) := by
  have filled : 0 < (Numeral.digits q).length := List.length_pos_iff.mpr Nat.toDigits_ne_nil
  have below : q < tenTo (Numeral.digits q).length :=
    (Nat.length_toDigits_le_iff (by decide) filled).mp (Nat.le_refl _)
  by_cases fits : (Numeral.digits q).length ≤ precision
  · refine Nat.le_trans ?_ (Nat.le_max_right _ _)
    calc (q + 1) * tenTo (precision - (Numeral.digits q).length)
        ≤ tenTo (Numeral.digits q).length * tenTo (precision - (Numeral.digits q).length) :=
          Nat.mul_le_mul_right _ below
      _ = tenTo precision := by rw [← tenTo_add, Nat.add_sub_cancel' fits]
  · rw [Nat.sub_eq_zero_of_le (by omega)]
    exact Nat.le_trans (Nat.le_of_eq (Nat.mul_one _)) (Nat.le_max_left _ _)

theorem quotient_bounds {n d : Nat} (positive : 0 < d) (scale : Int) :
    (quotient n d scale).1 ≤ Max.max (n / d + 1) (tenTo precision) ∧
      scale ≤ (quotient n d scale).2 := by
  obtain ⟨size, finer⟩ := widen_bounds d (d.log2 + 1) n scale
  unfold quotient
  dsimp only
  generalize widen d (d.log2 + 1) n scale = widened at size finer ⊢
  obtain ⟨m, s⟩ := widened
  dsimp only at size finer ⊢
  obtain ⟨long, finest⟩ := longDivision_bounds positive
    (precision - (Numeral.digits (m / d)).length) (m / d) (m % d) s (Nat.mod_lt _ positive)
  have bound := Nat.le_trans long (digits_bound (m / d))
  have whole : m / d ≤ Max.max (n / d) 10 := by
    by_cases same : m ≤ n
    · exact Nat.le_trans (Nat.div_le_div_right same) (Nat.le_max_left _ _)
    · exact Nat.le_trans (Nat.div_le_of_le_mul (by omega)) (Nat.le_max_right _ _)
  have precise : 11 ≤ tenTo precision := by decide +kernel
  generalize tenTo precision = limit at bound precise ⊢
  refine ⟨?_, Int.le_trans finer finest⟩
  split
  · omega
  · omega

/-- Past the precision the quotient is the nearest integer. -/
theorem quotient_of_long {n d : Nat} (positive : 0 < d) (le : d * tenTo precision ≤ n) :
    quotient n d 0 = (if 5 ≤ 10 * (n % d) / d then n / d + 1 else n / d, 0) := by
  have fits : d ≤ n := Nat.le_trans (Nat.le_mul_of_pos_right _ (tenTo_pos _)) le
  have long : precision < (Numeral.digits (n / d)).length := by
    refine Nat.lt_of_not_le fun short => ?_
    have below := (Nat.length_toDigits_le_iff (by decide) (by decide)).mp short
    have reached : 10 ^ precision ≤ n / d :=
      (Nat.le_div_iff_mul_le positive).mpr (by rwa [Nat.mul_comm])
    exact absurd reached (Nat.not_le.mpr below)
  unfold quotient
  dsimp only
  rw [widen_of_le fits]
  dsimp only
  rw [Nat.sub_eq_zero_of_le (Nat.le_of_lt long)]
  rfl

/-! ## Display values -/

theorem rounded_million (n : Nat) :
    (if 5 ≤ 10 * (n % 1000000) / 1000000 then n / 1000000 + 1 else n / 1000000) =
      (n + 500000) / 1000000 := by
  split
  · omega
  · omega

theorem display_eq {amount : Int} (nonzero : amount ≠ 0) (other : amount ≠ 1000000) :
    ∃ a : Decimal, display amount defaultPlaces = a.toBinary64 ∧
      a.digits.natAbs = (quotient amount.natAbs 1000000 0).1 ∧
      a.scale = (quotient amount.natAbs 1000000 0).2 := by
  have million : tenTo defaultPlaces = 1000000 := by decide
  have regular : (ofInt ((1000000 : Nat) : Int)).isZero = false := by decide
  have many : (ofInt ((1000000 : Nat) : Int)).isOne = false := by decide
  have filled : (ofInt amount).isZero = false := isZero_ofInt.mpr nonzero
  unfold display
  rw [million]
  unfold div
  rw [regular, many, filled]
  have unequal : (ofInt amount).digits ≠ (ofInt ((1000000 : Nat) : Int)).digits := other
  simp only [Bool.false_eq_true, if_false, Bool.or_self, if_neg unequal]
  refine ⟨_, rfl, ?_, rfl⟩
  dsimp only
  split
  · exact Int.natAbs_natCast _
  · exact (Int.natAbs_neg _).trans (Int.natAbs_natCast _)

theorem display_of_short {amount : Int} (short : amount.natAbs < 1000000 * tenTo precision) :
    (display amount defaultPlaces).isFinite := by
  by_cases none : amount = 0
  · subst none
    decide
  · by_cases unit : amount = 1000000
    · subst unit
      decide
    · obtain ⟨a, same, digits, scale⟩ := display_eq none unit
      obtain ⟨size, finer⟩ := quotient_bounds (n := amount.natAbs) (d := 1000000) (by decide) 0
      have whole : amount.natAbs / 1000000 < tenTo precision := Nat.div_lt_of_lt_mul short
      have power : tenTo precision + 1 < twoTo 401 := by decide +kernel
      rw [same]
      refine toBinary64_isFinite ?_ (by omega)
      rw [digits]
      generalize tenTo precision = limit at size whole power
      omega

theorem display_of_long {amount : Int} (long : 1000000 * tenTo precision ≤ amount.natAbs) :
    0 < (amount.natAbs + 500000) / 1000000 ∧ ∃ negative, display amount defaultPlaces =
      .ofRatio negative ((amount.natAbs + 500000) / 1000000) 1 := by
  have unit : 1000000 < amount.natAbs := Nat.lt_of_lt_of_le (by decide +kernel) long
  obtain ⟨a, same, digits, scale⟩ :=
    display_eq (show amount ≠ 0 by omega) (show amount ≠ 1000000 by omega)
  rw [quotient_of_long (d := 1000000) (by decide) long] at digits scale
  have nearest : a.digits.natAbs = (amount.natAbs + 500000) / 1000000 :=
    digits.trans (rounded_million _)
  refine ⟨by omega, decide (a.digits < 0), ?_⟩
  rw [same, toBinary64_integer (by omega) scale, nearest]

/-- A display value is finite where the nearest whole number of units is. -/
theorem display_isFinite (amount : Int) : (display amount defaultPlaces).isFinite ↔
    (amount.natAbs + 500000) / 1000000 < Binary64.overflow := by
  by_cases short : amount.natAbs < 1000000 * tenTo precision
  · refine iff_of_true (display_of_short short) ?_
    have power : tenTo precision + 1 ≤ twoTo 401 := by decide +kernel
    have wide : twoTo 401 ≤ Binary64.overflow :=
      Nat.le_trans (twoTo_le (by decide)) Binary64.le_overflow
    refine Nat.lt_of_lt_of_le ?_ wide
    generalize tenTo precision = limit at short power
    omega
  · obtain ⟨positive, negative, same⟩ := display_of_long (Nat.le_of_not_lt short)
    rw [same, Binary64.ofRatio_isFinite Nat.one_ne_zero (Nat.ne_of_gt positive), Nat.mul_one]

theorem display_not_isNaN (amount : Int) : (display amount defaultPlaces).isNaN = false := by
  by_cases short : amount.natAbs < 1000000 * tenTo precision
  · exact Binary64.not_isNaN (display_of_short short)
  · obtain ⟨_, negative, same⟩ := display_of_long (Nat.le_of_not_lt short)
    rw [same]
    exact Binary64.ofRatio_not_isNaN negative _ _

/-! ## Ratios -/

variable {quote base : Int}

theorem displayRatio_isFinite (nonzero : base ≠ 0) : (displayRatio quote base).isFinite ↔
    (quote.natAbs * 1000000 / base.natAbs + 500000) / 1000000 < Binary64.overflow := by
  have million : tenTo defaultPlaces = 1000000 := by decide
  unfold displayRatio
  rw [if_neg nonzero, display_isFinite, million, Int.natAbs_tdiv, Int.natAbs_mul]
  rfl

theorem displayRatio_not_isNaN (quote base : Int) : (displayRatio quote base).isNaN = false := by
  unfold displayRatio
  split
  · decide
  · exact display_not_isNaN _

end PoolIndexer.Decimal
