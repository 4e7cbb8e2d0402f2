import PoolIndexer.Apr
import PoolIndexer.Fee
import PoolIndexer.Proofs.Result

/-! Where a division can be by zero. Fees at a rate that is not negative and yields never divide by
zero. Prices do where a pool lacks of its base asset exactly what a simulated swap offers. -/
namespace PoolIndexer

/-! ## Decimals -/

namespace Decimal

theorem div_ok {a b : Decimal} : (∃ q, a.div b = .ok q) ↔ b.isZero = false := by
  unfold div
  cases zero : b.isZero with
  | true => simp
  | false =>
    simp only [Bool.false_eq_true, if_false, iff_true]
    split
    · exact ⟨_, rfl⟩
    · split
      · exact ⟨_, rfl⟩
      · exact ⟨_, rfl⟩

theorem isZero_ofInt {n : Int} : (ofInt n).isZero = false ↔ n ≠ 0 := by
  simp [isZero, ofInt]

/-- What is displayed is divided by a power of ten, so there is always something to display. -/
theorem display_divides (amount : Int) (places : Nat) :
    ∃ a, (ofInt amount).div (ofInt (tenTo places)) = .ok a := by
  have positive := tenTo_pos places
  rw [div_ok, isZero_ofInt]
  omega

theorem isZero_one_add {rate : Decimal} (nonneg : 0 ≤ rate.digits) :
    ((ofInt 1).add rate).isZero = false := by
  have one : 0 < (ofInt 1).digitsAt (max 0 rate.scale) := by
    have positive := tenTo_pos (max 0 rate.scale - 0).toNat
    simp only [digitsAt, ofInt, Int.one_mul]
    omega
  have more : 0 ≤ rate.digitsAt (max 0 rate.scale) :=
    Int.mul_nonneg nonneg (Int.natCast_nonneg _)
  have sum : ((ofInt 1).add rate).digits =
      (ofInt 1).digitsAt (max 0 rate.scale) + rate.digitsAt (max 0 rate.scale) := rfl
  rw [isZero, sum]
  simp only [beq_eq_false_iff_ne]
  omega

end Decimal

/-! ## Fees -/

section

variable {params : FeeParams} (nonneg : 0 ≤ params.taxRate.digits)
include nonneg

theorem FeeParams.tax_ok (refund : Decimal) : ∃ fee, params.tax refund = .ok fee := by
  obtain ⟨untaxed, divided⟩ := Decimal.div_ok.mpr (Decimal.isZero_one_add nonneg)
  exact Result.exists_bind_ok.mpr ⟨untaxed, divided, _, rfl⟩

theorem FeeParams.withdrawalFee_ok (book : PriceBook) (pool : Pool) (share : Int) :
    ∃ fee, params.withdrawalFee book pool share = .ok fee := by
  unfold withdrawalFee
  split
  · exact ⟨_, rfl⟩
  · rename_i shares
    obtain ⟨ratio, divided⟩ := Decimal.div_ok.mpr (Decimal.isZero_ofInt.mpr shares)
    refine Result.exists_bind_ok.mpr ⟨ratio, divided, Result.exists_bind_ok.mpr ?_⟩
    obtain ⟨fees, taxed⟩ := Result.mapM_ok.mpr fun asset
        (_ : asset ∈ pool.assets.filter (·.info.isNative)) =>
      let ⟨fee, done⟩ := tax_ok nonneg ((Decimal.ofInt asset.amount).mul ratio)
      Result.exists_bind_ok.mpr ⟨fee, done,
        fee.mul (book.exactPrice asset.info.denom), rfl⟩
    exact ⟨fees, taxed, _, rfl⟩

theorem LiquidityChange.taxed_ok (book : PriceBook) (pairs : List Pair) (op : LiquidityChange) :
    ∃ taxed, op.taxed params book pairs = .ok taxed := by
  unfold taxed
  split
  · exact ⟨_, rfl⟩
  · split
    · rename_i pair _
      obtain ⟨fee, charged⟩ := FeeParams.withdrawalFee_ok nonneg book (op.redeemed pair) 1
      exact Result.exists_bind_ok.mpr ⟨fee, charged, _, rfl⟩
    · exact ⟨_, rfl⟩

end

/-! ## Yields and shares -/

theorem AprInput.apr_ok (input : AprInput) (liquidity : Decimal) (book : PriceBook) :
    ∃ apr, input.apr liquidity book = .ok apr := by
  unfold apr
  split
  · exact ⟨_, rfl⟩
  · rename_i supply
    obtain ⟨bondValue, divided⟩ := Decimal.div_ok.mpr (Decimal.isZero_ofInt.mpr supply)
    refine Result.exists_bind_ok.mpr ⟨bondValue, divided, ?_⟩
    split
    · exact ⟨_, rfl⟩
    · rename_i bonded
      obtain ⟨rate, divided⟩ := Decimal.div_ok.mpr (Bool.eq_false_iff.mpr bonded)
      exact Result.exists_bind_ok.mpr ⟨rate, divided, _, rfl⟩

theorem aprRows_ok (inputs : List AprInput) (pools : Snapshot) (book : PriceBook) (height : Nat)
    (time : Int) : ∃ rows, aprRows inputs pools book height time = .ok rows := by
  refine Result.mapM_ok.mpr fun input _ => ?_
  obtain ⟨apr, done⟩ := input.apr_ok _ book
  exact Result.exists_bind_ok.mpr ⟨apr, done, _, rfl⟩

/-- Where a pool has shares, the value of one can be told. -/
theorem PriceBook.sharePrice_divides (book : PriceBook) {pool : Pool}
    (shares : pool.totalShare ≠ 0) :
    ∃ value, (book.liquidity pool).div (.ofInt pool.totalShare) = .ok value :=
  Decimal.div_ok.mpr (Decimal.isZero_ofInt.mpr shares)

/-! ## Prices -/

theorem simulatedReturn_ok {base quote : Int} {commission : Decimal} :
    (∃ returned, simulatedReturn base quote commission = .ok returned) ↔
      base ≠ -simulatedOffer := by
  unfold simulatedReturn
  split
  · rename_i zero
    have same : base = -simulatedOffer := by omega
    simp [same]
  · rename_i nonzero
    have differ : base ≠ -simulatedOffer := by omega
    simp [differ]

/-- A swap of the simulated offer would leave the pool without base asset, though not without
quote asset. -/
def Pool.Singular (pool : Pool) (pair : Pair) : Prop :=
  (pool.reserves pair).1 = -simulatedOffer ∧ (pool.reserves pair).2 ≠ 0

instance (pool : Pool) (pair : Pair) : Decidable (pool.Singular pair) :=
  inferInstanceAs (Decidable (_ ∧ _))

theorem pairRatio_ok {pair : Pair} {pool : Pool} {direction : RatioDirection} :
    (∃ ratio, pairRatio pair pool direction = .ok ratio) ↔ ¬ pool.Singular pair := by
  unfold pairRatio Pool.Singular
  dsimp only
  split
  · rename_i empty
    have regular : ¬ ((pool.reserves pair).1 = -simulatedOffer ∧ (pool.reserves pair).2 ≠ 0) := by
      rintro ⟨lacks, filled⟩
      rcases empty with none | none
      · rw [none] at lacks
        exact absurd lacks (by decide)
      · exact filled none
    exact ⟨fun _ => regular, fun _ => ⟨_, rfl⟩⟩
  · rename_i filled
    have quote : (pool.reserves pair).2 ≠ 0 := fun none => filled (.inr none)
    rw [Result.exists_bind_ok]
    constructor
    · rintro ⟨returned, done, _⟩ ⟨lacks, _⟩
      exact simulatedReturn_ok.mp ⟨returned, done⟩ lacks
    · intro regular
      obtain ⟨returned, done⟩ := simulatedReturn_ok.mpr fun lacks => regular ⟨lacks, quote⟩
      refine ⟨returned, done, ?_⟩
      cases direction with
      | baseInQuote => exact ⟨_, rfl⟩
      | quoteInBase => exact ⟨_, rfl⟩

namespace PriceBook

/-- The price of an asset is read off the pair. It is the first one of the hub and USDT, or the
first one of the hub and an asset that is neither. -/
def Defines (hub usdt : String) (pairs : List Pair) (pair : Pair) : Prop :=
  findByDenoms pairs hub usdt = some pair ∨
    ∃ denom, denom ≠ usdt ∧ denom ≠ hub ∧ findByDenoms pairs denom hub = some pair

/-- The pool of the pair is singular. -/
def Blocked (pools : Snapshot) (pair : Pair) : Prop :=
  ∃ pool, pools.get? pair.address = some pool ∧ pool.Singular pair

variable {hub usdt : String} {pairs : List Pair} {pools : Snapshot}

theorem defines_nil (pair : Pair) : ¬ Defines hub usdt [] pair := by
  rintro (direct | ⟨denom, _, _, found⟩)
  · cases direct
  · cases found

theorem ratioOf_ok {pair : Pair} {denom : String} :
    (∃ ratio, ratioOf pools pair denom = .ok ratio) ↔ ¬ Blocked pools pair := by
  unfold ratioOf Blocked
  cases held : pools.get? pair.address with
  | none => simp
  | some pool => simp [pairRatio_ok]

theorem hubPriceOf_ok :
    (∃ price, hubPriceOf hub usdt pairs pools = .ok price) ↔
      ∀ pair, findByDenoms pairs hub usdt = some pair → ¬ Blocked pools pair := by
  unfold hubPriceOf
  cases found : findByDenoms pairs hub usdt with
  | none => simp
  | some pair => simp [ratioOf_ok]

theorem priceViaHub_ok (hubPrice : Binary64) {denom : String} :
    (∃ price, priceViaHub hub hubPrice pairs pools denom = .ok price) ↔
      ∀ pair, findByDenoms pairs denom hub = some pair → ¬ Blocked pools pair := by
  unfold priceViaHub Blocked
  cases found : findByDenoms pairs denom hub with
  | none => simp
  | some pair =>
    cases held : pools.get? pair.address with
    | none => simp [held]
    | some pool =>
      simp only [held]
      rw [Result.exists_bind_ok]
      constructor
      · rintro ⟨ratio, done, _⟩ _ ⟨⟩ ⟨_, same, singular⟩
        cases held.symm.trans same
        exact pairRatio_ok.mp ⟨ratio, done⟩ singular
      · intro regular
        obtain ⟨ratio, done⟩ := pairRatio_ok.mpr fun singular =>
          regular pair rfl ⟨pool, held, singular⟩
        exact ⟨ratio, done, _, rfl⟩

/-- An asset that a pair trades is listed with the assets of all pairs. -/
theorem mem_denoms_of_found {denom other : String} {pair : Pair}
    (found : findByDenoms pairs denom other = some pair) :
    denom ∈ (pairs.flatMap (·.assetInfos)).map (·.denom) := by
  have among : pair ∈ pairs := List.mem_of_find?_eq_some found
  have trades := List.find?_some (p := fun pair : Pair => pair.trades denom other) found
  simp only [List.mem_map, List.mem_flatMap]
  simp only [Pair.trades, Bool.or_eq_true, Bool.and_eq_true, beq_iff_eq] at trades
  rcases trades with ⟨base, _⟩ | ⟨_, quote⟩
  · exact ⟨pair.base, ⟨pair, among, by simp [Pair.assetInfos]⟩, base⟩
  · exact ⟨pair.quote, ⟨pair, among, by simp [Pair.assetInfos]⟩, quote⟩

/-- Prices can be told unless a pair that one is read off is blocked. -/
theorem resolve_ok :
    (∃ book, resolve hub usdt pairs pools = .ok book) ↔
      ∀ pair, Defines hub usdt pairs pair → ¬ Blocked pools pair := by
  unfold resolve
  rw [Result.exists_bind_ok]
  constructor
  · rintro ⟨hubPrice, priced, others⟩ pair (direct | ⟨denom, notUsdt, notHub, found⟩)
    · exact hubPriceOf_ok.mp ⟨hubPrice, priced⟩ pair direct
    · obtain ⟨prices, mapped, _⟩ := Result.exists_bind_ok.mp others
      have listed : denom ∈ (((pairs.flatMap (·.assetInfos)).map (·.denom)).filter
          fun d => d != usdt && d != hub).eraseDups := by
        rw [List.mem_eraseDups, List.mem_filter]
        exact ⟨mem_denoms_of_found found, by simp [notUsdt, notHub]⟩
      have each := Result.mapM_ok.mp ⟨prices, mapped⟩ denom listed
      obtain ⟨price, done, _⟩ := Result.exists_bind_ok.mp each
      exact (priceViaHub_ok hubPrice).mp ⟨price, done⟩ pair found
  · intro regular
    obtain ⟨hubPrice, priced⟩ := hubPriceOf_ok.mpr fun pair found => regular pair (.inl found)
    refine ⟨hubPrice, priced, Result.exists_bind_ok.mpr ?_⟩
    obtain ⟨prices, mapped⟩ := Result.mapM_ok.mpr fun denom (listed : denom ∈
        (((pairs.flatMap (·.assetInfos)).map (·.denom)).filter
          fun d => d != usdt && d != hub).eraseDups) => by
      rw [List.mem_eraseDups, List.mem_filter] at listed
      have apart : denom ≠ usdt ∧ denom ≠ hub := by simpa using listed.2
      obtain ⟨price, done⟩ := (priceViaHub_ok hubPrice).mpr fun pair found =>
        regular pair (.inr ⟨denom, apart.1, apart.2, found⟩)
      exact Result.exists_bind_ok.mpr ⟨price, done, (denom, price), rfl⟩
    exact ⟨prices, mapped, _, rfl⟩

end PriceBook
end PoolIndexer
