import PoolIndexer.Price
import PoolIndexer.Proofs.Decimal

/-! The price of the simulated swap against the constant product formula. What the pool gives is
rounded up and what commission leaves of it is rounded down, so that the result is less than one
unit from the exact one, and neither rounding disturbs the order of pools and commissions. -/
namespace PoolIndexer.SimulatedSwap

/-- What a pool gives for the simulated offer by the constant product formula. -/
def exactReturn (base quote : Int) : ℚ := quote * simulatedOffer / (base + simulatedOffer)

/-- The millionths of a return that a commission leaves; it is charged in whole millionths. -/
def kept (commission : Decimal) : Int := commissionScale - ⌊commissionScale * commission.toRat⌋

/-- What is left of the return of a pool, with both roundings. -/
def roundedReturn (base quote : Int) (commission : Decimal) : Int :=
  ⌊(⌈exactReturn base quote⌉ * kept commission : ℚ) / commissionScale⌋

theorem cast_commissionScale : (commissionScale : ℚ) = 10 ^ 6 := by norm_num [commissionScale]

/-! ## The exact return -/

section

variable {base quote : Int} (baseHeld : 0 ≤ base)
include baseHeld

theorem divisor_pos : (0 : ℚ) < base + simulatedOffer := by
  have held : (0 : ℚ) ≤ base := by exact_mod_cast baseHeld
  norm_num [simulatedOffer]
  linarith

theorem exactReturn_nonneg (quoteHeld : 0 ≤ quote) : 0 ≤ exactReturn base quote := by
  have held : (0 : ℚ) ≤ quote := by exact_mod_cast quoteHeld
  have offer : (0 : ℚ) ≤ simulatedOffer := by norm_num [simulatedOffer]
  exact div_nonneg (mul_nonneg held offer) (divisor_pos baseHeld).le

/-- A pool gives no more than it holds. -/
theorem exactReturn_le (quoteHeld : 0 ≤ quote) : exactReturn base quote ≤ quote := by
  have held : (0 : ℚ) ≤ quote := by exact_mod_cast quoteHeld
  have pool : (0 : ℚ) ≤ base := by exact_mod_cast baseHeld
  rw [exactReturn, div_le_iff₀ (divisor_pos baseHeld), mul_add]
  exact le_add_of_nonneg_left (mul_nonneg held pool)

/-- A pool gives more the more it holds of the quote asset and the less of the base asset. -/
theorem exactReturn_mono {base' quote' : Int} (deeper : base ≤ base') (scarcer : quote' ≤ quote)
    (quoteHeld : 0 ≤ quote) : exactReturn base' quote' ≤ exactReturn base quote := by
  have held : (0 : ℚ) ≤ quote := by exact_mod_cast quoteHeld
  have offer : (0 : ℚ) ≤ simulatedOffer := by norm_num [simulatedOffer]
  have bases : (base : ℚ) ≤ base' := by exact_mod_cast deeper
  have quotes : (quote' : ℚ) ≤ quote := by exact_mod_cast scarcer
  refine div_le_div₀ (mul_nonneg held offer) ?_ (divisor_pos baseHeld) ?_
  · exact mul_le_mul_of_nonneg_right quotes offer
  · linarith

/-- What the pool keeps is cut, so that what it gives is rounded up. -/
theorem quote_sub_tdiv (quoteHeld : 0 ≤ quote) :
    quote - (base * quote).tdiv (base + simulatedOffer) = ⌈exactReturn base quote⌉ := by
  have divisor := divisor_pos baseHeld
  obtain ⟨d, whole⟩ : ∃ d : ℕ, base + simulatedOffer = d :=
    Int.eq_ofNat_of_zero_le (by simp only [simulatedOffer]; omega)
  have cast : (base + simulatedOffer : ℚ) = d := by exact_mod_cast whole
  have parts : exactReturn base quote = quote + -(((base * quote : Int) : ℚ) / d) := by
    rw [exactReturn, ← cast]
    push_cast
    field_simp
    ring
  rw [parts, Int.ceil_intCast_add, Int.ceil_neg, Rat.floor_intCast_div_natCast, whole,
    Int.tdiv_eq_ediv_of_nonneg (Int.mul_nonneg baseHeld quoteHeld), Int.sub_eq_add_neg]

end

/-! ## Commission -/

section

variable {commission : Decimal} (rate : 0 ≤ commission.toRat)
include rate

/-- A commission is charged in millionths that are cut. -/
theorem taken_eq : (commission.mul (.ofInt commissionScale)).truncate =
    ⌊commissionScale * commission.toRat⌋ := by
  have charged : (commission.mul (.ofInt commissionScale)).toRat =
      commissionScale * commission.toRat := by
    rw [Decimal.toRat_mul, Decimal.toRat_ofInt, mul_comm]
  have nonneg : 0 ≤ (commission.mul (.ofInt commissionScale)).toRat := by
    rw [charged, cast_commissionScale]
    positivity
  rw [Decimal.truncate_of_nonneg nonneg, charged]

theorem kept_le : (kept commission : ℚ) ≤ 10 ^ 6 := by
  have charged : 0 ≤ ⌊commissionScale * commission.toRat⌋ := by
    rw [Int.floor_nonneg, cast_commissionScale]
    positivity
  have most : kept commission ≤ 10 ^ 6 := by
    simp only [kept, commissionScale] at charged ⊢
    omega
  exact_mod_cast most

omit rate in
theorem kept_nonneg (share : commission.toRat ≤ 1) : 0 ≤ kept commission := by
  have charged : ⌊commissionScale * commission.toRat⌋ ≤ commissionScale := by
    rw [← Int.floor_intCast (R := ℚ) commissionScale]
    apply Int.floor_mono
    rw [cast_commissionScale]
    exact mul_le_of_le_one_right (by norm_num) share
  rw [kept]
  omega

omit rate in
theorem kept_mono {commission' : Decimal} (dearer : commission.toRat ≤ commission'.toRat) :
    kept commission' ≤ kept commission := by
  have charged : ⌊commissionScale * commission.toRat⌋ ≤ ⌊commissionScale * commission'.toRat⌋ := by
    apply Int.floor_mono
    rw [cast_commissionScale]
    exact mul_le_mul_of_nonneg_left dearer (by norm_num)
  simp only [kept]
  omega

end

/-! ## The rounded return -/

section

variable {base quote : Int} {commission : Decimal} (baseHeld : 0 ≤ base) (quoteHeld : 0 ≤ quote)
  (rate : 0 ≤ commission.toRat) (share : commission.toRat ≤ 1)

include baseHeld quoteHeld rate share in
theorem simulatedReturn_eq :
    simulatedReturn base quote commission = .ok (roundedReturn base quote commission) := by
  have divisor : base + simulatedOffer ≠ 0 := by
    simp only [simulatedOffer]
    omega
  have given := Int.ceil_nonneg (exactReturn_nonneg baseHeld quoteHeld)
  have left := kept_nonneg share
  have scale : (commissionScale : ℚ) = (1000000 : ℕ) := by norm_num [commissionScale]
  have rounded : roundedReturn base quote commission =
      ⌈exactReturn base quote⌉ * kept commission / commissionScale := by
    rw [roundedReturn, scale, ← Int.cast_mul, Rat.floor_intCast_div_natCast]
    rfl
  rw [simulatedReturn, if_neg divisor, rounded]
  dsimp only
  rw [quote_sub_tdiv baseHeld quoteHeld, taken_eq rate, ← kept,
    Int.tdiv_eq_ediv_of_nonneg (Int.mul_nonneg given left)]

include baseHeld quoteHeld share in
theorem roundedReturn_nonneg : 0 ≤ roundedReturn base quote commission := by
  have given : (0 : ℚ) ≤ ⌈exactReturn base quote⌉ := by
    exact_mod_cast Int.ceil_nonneg (exactReturn_nonneg baseHeld quoteHeld)
  have left : (0 : ℚ) ≤ kept commission := by exact_mod_cast kept_nonneg share
  rw [roundedReturn, Int.floor_nonneg, cast_commissionScale]
  positivity

include baseHeld quoteHeld rate in
theorem roundedReturn_le : roundedReturn base quote commission ≤ quote := by
  have given : ⌈exactReturn base quote⌉ ≤ quote :=
    Int.ceil_le.mpr (exactReturn_le baseHeld quoteHeld)
  have whole : (0 : ℚ) ≤ ⌈exactReturn base quote⌉ := by
    exact_mod_cast Int.ceil_nonneg (exactReturn_nonneg baseHeld quoteHeld)
  have part : roundedReturn base quote commission ≤ ⌈exactReturn base quote⌉ := by
    rw [roundedReturn, ← Int.floor_intCast (R := ℚ) ⌈exactReturn base quote⌉]
    apply Int.floor_mono
    rw [Int.floor_intCast, cast_commissionScale, div_le_iff₀ (by norm_num)]
    exact mul_le_mul_of_nonneg_left (kept_le rate) whole
  exact part.trans given

include rate share in
/-- The rounding up is worth less than one unit before commission, and so is the one down after
it; they go against each other. -/
theorem roundedReturn_near : |(roundedReturn base quote commission : ℚ) -
    exactReturn base quote * kept commission / 10 ^ 6| < 1 := by
  have left : (0 : ℚ) ≤ kept commission := by exact_mod_cast kept_nonneg share
  have least := Int.le_ceil (exactReturn base quote)
  have below := Int.floor_le ((⌈exactReturn base quote⌉ * kept commission : ℚ) / commissionScale)
  have above := Int.lt_floor_add_one
    ((⌈exactReturn base quote⌉ * kept commission : ℚ) / commissionScale)
  rw [← roundedReturn, cast_commissionScale] at below above
  have more : exactReturn base quote * kept commission / 10 ^ 6 ≤
      ⌈exactReturn base quote⌉ * kept commission / 10 ^ 6 :=
    div_le_div_of_nonneg_right (mul_le_mul_of_nonneg_right least left) (by norm_num)
  have unit : ⌈exactReturn base quote⌉ * kept commission / 10 ^ 6 <
      exactReturn base quote * kept commission / 10 ^ 6 + 1 := by
    have gap : (⌈exactReturn base quote⌉ - exactReturn base quote) * kept commission < 10 ^ 6 :=
      calc (⌈exactReturn base quote⌉ - exactReturn base quote) * kept commission
          ≤ (⌈exactReturn base quote⌉ - exactReturn base quote) * 10 ^ 6 :=
            mul_le_mul_of_nonneg_left (kept_le rate) (sub_nonneg.mpr least)
        _ < 1 * 10 ^ 6 := by
            have up := Int.ceil_lt_add_one (exactReturn base quote)
            linarith
        _ = 10 ^ 6 := one_mul _
    linarith
  rw [abs_lt]
  constructor <;> linarith

include quoteHeld share in
theorem roundedReturn_mono {base' quote' : Int} {commission' : Decimal} (scarcer : base' ≤ base)
    (held : 0 ≤ base') (richer : quote ≤ quote') (cheaper : commission'.toRat ≤ commission.toRat) :
    roundedReturn base quote commission ≤ roundedReturn base' quote' commission' := by
  have more : (⌈exactReturn base quote⌉ : ℚ) ≤ ⌈exactReturn base' quote'⌉ := by
    exact_mod_cast Int.ceil_mono (exactReturn_mono held scarcer richer (quoteHeld.trans richer))
  have whole : (0 : ℚ) ≤ ⌈exactReturn base' quote'⌉ := by
    exact_mod_cast Int.ceil_nonneg (exactReturn_nonneg held (quoteHeld.trans richer))
  have left : (0 : ℚ) ≤ kept commission := by exact_mod_cast kept_nonneg share
  have spared : (kept commission : ℚ) ≤ kept commission' := by exact_mod_cast kept_mono cheaper
  rw [roundedReturn, roundedReturn, cast_commissionScale]
  apply Int.floor_mono
  exact div_le_div_of_nonneg_right (mul_le_mul more spared left whole) (by norm_num)

include baseHeld quoteHeld rate share in
/-- The price of a pool is what the constant product formula gives for the offer, rounded up, less
the commission, rounded down. It is at most the reserve and less than one unit from the exact
price, and it grows with the quote reserve and falls with the base reserve and the commission. -/
theorem simulated_price :
    simulatedReturn base quote commission = .ok (roundedReturn base quote commission) ∧
      0 ≤ roundedReturn base quote commission ∧ roundedReturn base quote commission ≤ quote ∧
      |(roundedReturn base quote commission : ℚ) -
        exactReturn base quote * kept commission / 10 ^ 6| < 1 ∧
      ∀ (base' quote' : Int) (commission' : Decimal), 0 ≤ base' → base' ≤ base → quote ≤ quote' →
        0 ≤ commission'.toRat → commission'.toRat ≤ commission.toRat →
        ∃ better, simulatedReturn base' quote' commission' = .ok better ∧
          roundedReturn base quote commission ≤ better := by
  refine ⟨simulatedReturn_eq baseHeld quoteHeld rate share, roundedReturn_nonneg baseHeld quoteHeld
    share, roundedReturn_le baseHeld quoteHeld rate, roundedReturn_near rate share, ?_⟩
  intro base' quote' commission' held scarcer richer rate' cheaper
  have share' := cheaper.trans share
  exact ⟨_, simulatedReturn_eq held (quoteHeld.trans richer) rate' share',
    roundedReturn_mono quoteHeld share scarcer held richer cheaper⟩

end

/-- A pool of two assets of nearly equal worth, with a commission of three thousandths. -/
theorem simulated_price_commission :
    roundedReturn 10305560305234 10205020305234 ⟨3, 3⟩ = 9872724 ∧
      |(9872724 : ℚ) - exactReturn 10305560305234 10205020305234 * kept ⟨3, 3⟩ / 10 ^ 6| < 1 ∧
      ∃ better, simulatedReturn 10305560305234 10205020305235 .zero = .ok better ∧
        9872724 ≤ better := by
  have rate : 0 ≤ Decimal.toRat ⟨3, 3⟩ := by norm_num [Decimal.toRat]
  have share : Decimal.toRat ⟨3, 3⟩ ≤ 1 := by norm_num [Decimal.toRat]
  have baseHeld : (0 : Int) ≤ 10305560305234 := by decide
  have quoteHeld : (0 : Int) ≤ 10205020305234 := by decide
  obtain ⟨given, _, _, near, better⟩ := simulated_price baseHeld quoteHeld rate share
  have value : roundedReturn 10305560305234 10205020305234 ⟨3, 3⟩ = 9872724 :=
    Except.ok.inj (given.symm.trans (by decide +kernel))
  rw [value] at near better
  exact ⟨value, by exact_mod_cast near, better 10305560305234 10205020305235 .zero (by decide)
    (by decide) (by decide) (by simp) (by simpa using rate)⟩

end PoolIndexer.SimulatedSwap
