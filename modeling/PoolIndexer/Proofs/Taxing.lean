import Mathlib.Algebra.Order.BigOperators.Group.List
import PoolIndexer.Proofs.Decimal.Quotient
import PoolIndexer.Proofs.Result.Lists

/-! Fees of withdrawals. The tax on a refund is between nothing and the cap, although the quotient
that it is told from is rounded, and a fee is between nothing and the cap on every refunded asset
that is native in the pair, at its price. -/
namespace PoolIndexer

/-! ## The tax on a refund -/

section

variable {params : FeeParams} (rate : 0 ≤ params.taxRate.toRat) (cap : 0 ≤ params.taxCap)
include rate

theorem FeeParams.divisor_ge : 1 ≤ ((Decimal.ofInt 1).add params.taxRate).toRat := by
  rw [Decimal.toRat_add, Decimal.toRat_ofInt, Int.cast_one]
  linarith

include cap

theorem FeeParams.tax_between {amount : Int} (nonneg : 0 ≤ amount)
    (few : amount < 10 ^ Decimal.precision) :
    ∃ fee, params.tax (.ofInt amount) = .ok fee ∧ 0 ≤ fee.toRat ∧ fee.toRat ≤ params.taxCap := by
  obtain ⟨untaxed, divided, -, less⟩ := Decimal.div_between nonneg few (divisor_ge rate)
  have capped : (0 : ℚ) ≤ params.taxCap := by exact_mod_cast cap
  refine ⟨_, Result.return_ok.mpr ⟨untaxed, divided, rfl⟩, ?_⟩
  split
  · rw [Decimal.toRat_ofInt]
    exact ⟨capped, le_refl _⟩
  · rename_i within
    rw [Decimal.lt_iff, not_lt, Decimal.toRat_ofInt] at within
    refine ⟨?_, within⟩
    rw [Decimal.toRat_sub, Decimal.toRat_ofInt]
    linarith

end

/-! ## The fee of a full redemption -/

namespace FeeParams

/-- The tax on an asset that is refunded in full, at the price of the asset. -/
def charge (params : FeeParams) (book : PriceBook) (asset : Asset) :
    Except ArithmeticError Decimal := do
  return (← params.tax (.ofInt asset.amount)).mul (book.exactPrice asset.info.denom)

theorem withdrawalFee_full (params : FeeParams) (book : PriceBook) (assets : List Asset) :
    params.withdrawalFee book ⟨assets, 1⟩ 1 = do
      let fees ← (assets.filter (·.info.isNative)).mapM (params.charge book)
      return (Decimal.sum fees).round := by
  have ratio : (Decimal.ofInt 1).div (.ofInt 1) = .ok (.ofInt 1) := by decide
  have whole (a : Decimal) : a.mul (.ofInt 1) = a := by simp [Decimal.mul, Decimal.ofInt]
  rw [withdrawalFee, if_neg Int.one_ne_zero, ratio]
  refine (pure_bind (m := Except ArithmeticError) (Decimal.ofInt 1) _).trans ?_
  simp only [whole]
  rfl

variable {params : FeeParams} {book : PriceBook}

theorem charge_between (rate : 0 ≤ params.taxRate.toRat) (cap : 0 ≤ params.taxCap)
    (priced : ∀ denom, ¬ (book.price denom).lt .zero) {asset : Asset} (nonneg : 0 ≤ asset.amount)
    (few : asset.amount < 10 ^ Decimal.precision) :
    ∃ fee, params.charge book asset = .ok fee ∧ 0 ≤ fee.toRat ∧
      fee.toRat ≤ params.taxCap * (book.price asset.info.denom).toRat := by
  obtain ⟨tax, taxed, above, below⟩ := tax_between rate cap nonneg few
  have price := Binary64.toRat_nonneg (priced asset.info.denom)
  refine ⟨_, Result.return_ok.mpr ⟨tax, taxed, rfl⟩, ?_⟩
  rw [Decimal.toRat_mul, PriceBook.exactPrice, Binary64.exact_decimal]
  exact ⟨mul_nonneg above price, mul_le_mul_of_nonneg_right below price⟩

/-- The greatest fee for assets that are refunded, before it is rounded. -/
def feeLimit (params : FeeParams) (book : PriceBook) (denoms : List String) : ℚ :=
  (denoms.map fun denom => params.taxCap * (book.price denom).toRat).sum

theorem feeLimit_mono (cap : 0 ≤ params.taxCap) (priced : ∀ denom, ¬ (book.price denom).lt .zero)
    {denoms denoms' : List String} (among : denoms.Sublist denoms') :
    params.feeLimit book denoms ≤ params.feeLimit book denoms' := by
  refine (among.map _).sum_le_sum fun limit member => ?_
  obtain ⟨denom, -, rfl⟩ := List.mem_map.mp member
  exact mul_nonneg (by exact_mod_cast cap) (Binary64.toRat_nonneg (priced denom))

/-- The charges on assets, one by one and together. -/
theorem charges_between (rate : 0 ≤ params.taxRate.toRat) (cap : 0 ≤ params.taxCap)
    (priced : ∀ denom, ¬ (book.price denom).lt .zero) {assets : List Asset}
    (nonneg : ∀ asset ∈ assets, 0 ≤ asset.amount)
    (few : ∀ asset ∈ assets, asset.amount < 10 ^ Decimal.precision) :
    ∃ fees, assets.mapM (params.charge book) = .ok fees ∧ 0 ≤ (Decimal.sum fees).toRat ∧
      (Decimal.sum fees).toRat ≤ params.feeLimit book (assets.map (·.info.denom)) := by
  simp only [Decimal.toRat_sum, feeLimit]
  induction assets with
  | nil => exact ⟨[], rfl, by simp⟩
  | cons asset rest ih =>
    rw [List.forall_mem_cons] at nonneg few
    obtain ⟨fee, charged, above, below⟩ := charge_between rate cap priced nonneg.1 few.1
    obtain ⟨fees, others, sumAbove, sumBelow⟩ := ih nonneg.2 few.2
    refine ⟨fee :: fees, ?_, ?_⟩
    · rw [List.mapM_cons]
      exact Result.bind_ok.mpr ⟨fee, charged, Result.bind_ok.mpr ⟨fees, others, rfl⟩⟩
    · simp only [List.map_cons, List.sum_cons]
      exact ⟨add_nonneg above sumAbove, add_le_add below sumBelow⟩

/-- Only the prices of the assets matter. -/
theorem charges_congr {book' : PriceBook} {assets : List Asset}
    (same : ∀ asset ∈ assets, book'.price asset.info.denom = book.price asset.info.denom) :
    assets.mapM (params.charge book') = assets.mapM (params.charge book) := by
  induction assets with
  | nil => rw [List.mapM_nil, List.mapM_nil]
  | cons asset rest ih =>
    rw [List.forall_mem_cons] at same
    have here : params.charge book' asset = params.charge book asset := by
      rw [charge, charge, PriceBook.exactPrice, PriceBook.exactPrice, same.1]
    rw [List.mapM_cons, List.mapM_cons, here, ih same.2]

end FeeParams

/-! ## Refunds -/

namespace LiquidityChange

/-- The denominations that a withdrawal refunds and that are native in its pair. -/
def nativeRefunds (op : LiquidityChange) (pair : Pair) : List String :=
  [op.firstDenom, op.secondDenom].filter fun denom => .native denom ∈ pair.assetInfos

/-- The asset of a pair that a refund is made in. -/
def refunded? (pair : Pair) (refund : String × Int) : Option Asset :=
  (pair.assetInfos.find? (·.denom == refund.1)).map (⟨·, refund.2⟩)

theorem refunded?_some {pair : Pair} {refund : String × Int} {asset : Asset}
    (found : refunded? pair refund = some asset) :
    asset.info ∈ pair.assetInfos ∧ (asset.info.denom, asset.amount) = refund := by
  obtain ⟨info, has, rfl⟩ := Option.map_eq_some_iff.mp found
  have named := List.find?_some (p := fun info : AssetInfo => info.denom == refund.1) has
  exact ⟨List.mem_of_find?_eq_some has, Prod.ext (beq_iff_eq.mp named) rfl⟩

theorem mem_redeemed {op : LiquidityChange} {pair : Pair} {asset : Asset}
    (member : asset ∈ (op.redeemed pair).assets) :
    (asset.info.denom, asset.amount) ∈
      [(op.firstDenom, op.firstAmount), (op.secondDenom, op.secondAmount)] := by
  obtain ⟨refund, among, found⟩ := List.mem_filterMap.mp member
  rwa [(refunded?_some found).2]

theorem native_of_isNative {info : AssetInfo} (native : info.isNative) :
    info = .native info.denom := by
  cases info with
  | token => cases native
  | native => rfl

/-- The native assets that are redeemed are refunds that are native in the pair. -/
theorem refunded_native (pair : Pair) (refunds : List (String × Int)) :
    (((refunds.filterMap (refunded? pair)).filter (·.info.isNative)).map (·.info.denom)).Sublist
      ((refunds.map (·.1)).filter fun denom => .native denom ∈ pair.assetInfos) := by
  induction refunds with
  | nil => exact .slnil
  | cons refund rest ih =>
    have behind := ih.trans ((List.sublist_cons_self refund.1 (rest.map (·.1))).filter
      fun denom => decide (.native denom ∈ pair.assetInfos))
    cases found : refunded? pair refund with
    | none =>
      rw [List.filterMap_cons_none found]
      exact behind
    | some asset =>
      rw [List.filterMap_cons_some found]
      by_cases native : asset.info.isNative
      · obtain ⟨listed, same⟩ := refunded?_some found
        have named : asset.info.denom = refund.1 := congrArg Prod.fst same
        rw [native_of_isNative native, named] at listed
        rw [List.filter_cons, if_pos native, List.map_cons, List.map_cons, List.filter_cons,
          if_pos (decide_eq_true listed), named]
        exact ih.cons_cons refund.1
      · rw [List.filter_cons, if_neg native]
        exact behind

theorem redeemed_native (op : LiquidityChange) (pair : Pair) :
    (((op.redeemed pair).assets.filter (·.info.isNative)).map (·.info.denom)).Sublist
      (op.nativeRefunds pair) :=
  refunded_native pair [(op.firstDenom, op.firstAmount), (op.secondDenom, op.secondAmount)]

/-! ## The fee of a withdrawal -/

/-- What charging fees makes of a change: a withdrawal is charged at most the cap on every refund
that is native in its pair, rounded, and nothing where there is none or the pair is not known. -/
structure Charged (params : FeeParams) (book : PriceBook) (pairs : List Pair)
    (op row : LiquidityChange) : Prop where
  rest : row = { op with fee := row.fee }
  provided : op.kind = .provide → row = op
  unknown : op.kind = .withdraw → findByAddress pairs op.pairAddress = none → row.fee = 0
  exempt : op.kind = .withdraw → ∀ pair, findByAddress pairs op.pairAddress = some pair →
    op.nativeRefunds pair = [] → row.fee = 0
  capped : op.kind = .withdraw → ∀ pair, findByAddress pairs op.pairAddress = some pair →
    0 ≤ row.fee ∧ row.fee ≤ round (params.feeLimit book (op.nativeRefunds pair))

/-- The amounts of both refunds are within the precision of a quotient. -/
def Refundable (op : LiquidityChange) : Prop :=
  (0 ≤ op.firstAmount ∧ op.firstAmount < 10 ^ 100) ∧
    0 ≤ op.secondAmount ∧ op.secondAmount < 10 ^ 100

variable {params : FeeParams} {book book' : PriceBook} {pairs : List Pair} {op : LiquidityChange}

theorem redeemed_refundable (refundable : op.Refundable) {pair : Pair} {asset : Asset}
    (member : asset ∈ (op.redeemed pair).assets) :
    0 ≤ asset.amount ∧ asset.amount < 10 ^ Decimal.precision := by
  obtain ⟨first, second⟩ := refundable
  rw [show Decimal.precision = 100 from rfl]
  rcases List.mem_pair.mp (mem_redeemed member) with same | same
  · rwa [(Prod.mk.inj same).2]
  · rwa [(Prod.mk.inj same).2]

theorem fee_between (rate : 0 ≤ params.taxRate.toRat) (cap : 0 ≤ params.taxCap)
    (priced : ∀ denom, ¬ (book.price denom).lt .zero) (refundable : op.Refundable) (pair : Pair) :
    ∃ fee, params.withdrawalFee book (op.redeemed pair) 1 = .ok fee ∧
      0 ≤ fee ∧ fee ≤ round (params.feeLimit book (op.nativeRefunds pair)) := by
  have within : ∀ asset ∈ (op.redeemed pair).assets.filter (·.info.isNative),
      0 ≤ asset.amount ∧ asset.amount < 10 ^ Decimal.precision :=
    fun _ native => redeemed_refundable refundable (List.mem_of_mem_filter native)
  obtain ⟨fees, charged, above, below⟩ := FeeParams.charges_between rate cap priced
    (fun asset native => (within asset native).1) (fun asset native => (within asset native).2)
  have limit := below.trans (FeeParams.feeLimit_mono cap priced (op.redeemed_native pair))
  refine ⟨(Decimal.sum fees).round, ?_, ?_⟩
  · exact (FeeParams.withdrawalFee_full ..).trans
      (Result.return_ok.mpr ⟨fees, charged, rfl⟩)
  · rw [Decimal.round_of_nonneg above, round_eq]
    refine ⟨Int.floor_nonneg.mpr (by linarith), Int.floor_mono (by linarith)⟩

theorem taxed_charged (rate : 0 ≤ params.taxRate.toRat) (cap : 0 ≤ params.taxCap)
    (priced : ∀ denom, ¬ (book.price denom).lt .zero) (refundable : op.Refundable) :
    ∃ row, op.taxed params book pairs = .ok row ∧ Charged params book pairs op row := by
  unfold taxed
  split
  · rename_i provided
    refine ⟨op, rfl, rfl, fun _ => rfl, ?_, ?_, ?_⟩
    all_goals
      intro withdrawn
      rw [provided] at withdrawn
      cases withdrawn
  · rename_i withdrawn
    have taxable {row : LiquidityChange} (provided : op.kind = .provide) : row = op := by
      rw [withdrawn] at provided
      cases provided
    split
    · rename_i pair found
      obtain ⟨fee, charged, above, below⟩ := fee_between rate cap priced refundable pair
      refine ⟨_, Result.return_ok.mpr ⟨fee, charged, rfl⟩, rfl, taxable, fun _ unknown => ?_,
        fun _ pair' found' none => ?_, fun _ pair' found' => ?_⟩
      · rw [unknown] at found
        cases found
      · cases found.symm.trans found'
        rw [none, FeeParams.feeLimit, List.map_nil, List.sum_nil, round_zero] at below
        exact le_antisymm below above
      · cases found.symm.trans found'
        exact ⟨above, below⟩
    · rename_i unknown
      refine ⟨_, rfl, rfl, taxable, fun _ _ => rfl, fun _ pair found => ?_, fun _ pair found => ?_⟩
      all_goals
        rw [unknown] at found
        cases found

/-- Neither the shares nor the prices of other assets matter. -/
theorem taxed_congr (share : Int)
    (same : ∀ denom ∈ [op.firstDenom, op.secondDenom], book'.price denom = book.price denom) :
    LiquidityChange.taxed params book' pairs { op with share } =
      (op.taxed params book pairs).map fun row => { row with share } := by
  unfold taxed
  dsimp only
  split
  · rfl
  · split
    · rename_i pair _
      have charges : params.withdrawalFee book' (op.redeemed pair) 1 =
          params.withdrawalFee book (op.redeemed pair) 1 := by
        refine (FeeParams.withdrawalFee_full ..).trans ?_
        refine Eq.trans ?_ (FeeParams.withdrawalFee_full ..).symm
        rw [FeeParams.charges_congr fun asset native => same _ ?_]
        have refund := mem_redeemed (List.mem_of_mem_filter native)
        exact List.mem_map_of_mem (f := Prod.fst) refund
      have redeemed : LiquidityChange.redeemed { op with share } pair = op.redeemed pair := rfl
      rw [redeemed, charges]
      cases params.withdrawalFee book (op.redeemed pair) 1 with
      | error _ => rfl
      | ok _ => rfl
    · rfl

/-- Every withdrawal of a list is charged within its limit, whatever its shares and the prices of
assets that it does not refund; nothing but fees changes. -/
theorem taxed_within (params : FeeParams) (book : PriceBook) (pairs : List Pair)
    {ops : List LiquidityChange} (rate : 0 ≤ params.taxRate.toRat) (cap : 0 ≤ params.taxCap)
    (priced : ∀ denom, ¬ (book.price denom).lt .zero)
    (refundable : ∀ op ∈ ops, op.Refundable) :
    ∃ rows, ops.mapM (·.taxed params book pairs) = .ok rows ∧
      List.Forall₂ (Charged params book pairs) ops rows ∧
      ∀ (shares : LiquidityChange → Int) (book' : PriceBook),
        (∀ op ∈ ops, ∀ denom ∈ [op.firstDenom, op.secondDenom],
          book'.price denom = book.price denom) →
        ∃ rows', (ops.map fun op => { op with share := shares op }).mapM
            (·.taxed params book' pairs) = .ok rows' ∧
          rows'.map (·.fee) = rows.map (·.fee) := by
  have each : ∀ op ∈ ops, ∃ row, op.taxed params book pairs = .ok row ∧
      Charged params book pairs op row :=
    fun op member => taxed_charged rate cap priced (refundable op member)
  obtain ⟨rows, taxed, charged⟩ := Result.exists_mapM each
  refine ⟨rows, taxed, charged, fun shares book' same => ?_⟩
  clear charged each refundable
  rw [Result.mapM_iff] at taxed
  induction taxed with
  | nil => exact ⟨[], rfl, rfl⟩
  | @cons op row ops rows done others ih =>
    rw [List.forall_mem_cons] at same
    obtain ⟨rows', mapped, fees⟩ := ih same.2
    have here : LiquidityChange.taxed params book' pairs { op with share := shares op } =
        .ok { row with share := shares op } := by
      rw [taxed_congr (shares op) same.1, done]
      rfl
    refine ⟨{ row with share := shares op } :: rows', ?_, congrArg (row.fee :: ·) fees⟩
    rw [List.map_cons, List.mapM_cons, here, mapped]
    rfl

/-- A provision, a withdrawal that is taxed beyond the cap, and one from a pair that is not known:
the second is charged at most the cap. -/
theorem taxed_within_cap :
    let known : Pair := ⟨.native "orai", .token "usdt", "orai_usdt", "lp", "", "0.003"⟩
    let change : LiquidityKind → String → LiquidityChange := fun kind address =>
      ⟨"", "", 1, 0, address, "", kind, "orai", 20000000000, "usdt", 10000000000, 10, 0, 0, 0⟩
    ∃ first second third, [change .provide "orai_usdt", change .withdraw "orai_usdt",
        change .withdraw "other"].mapM
          (·.taxed ⟨⟨3, 1⟩, 1000000⟩ ⟨"usdt", "orai", .one, []⟩ [known]) =
        .ok [first, second, third] ∧
      first = change .provide "orai_usdt" ∧ 0 ≤ second.fee ∧ second.fee ≤ 1000000 ∧
      third.fee = 0 := by
  intro known change
  have priced (denom : String) :
      ¬ (PriceBook.price ⟨"usdt", "orai", .one, []⟩ denom).lt .zero := by
    unfold PriceBook.price
    split
    · decide
    · split
      · decide
      · exact of_decide_eq_true rfl
  have refundable : ∀ op ∈ [change .provide "orai_usdt", change .withdraw "orai_usdt",
      change .withdraw "other"], op.Refundable := by
    intro op member
    simp only [List.mem_cons, List.not_mem_nil, or_false] at member
    rcases member with rfl | rfl | rfl <;> norm_num [Refundable, change]
  obtain ⟨rows, taxed, charged, -⟩ := taxed_within ⟨⟨3, 1⟩, 1000000⟩ ⟨"usdt", "orai", .one, []⟩
    [known] (by norm_num [Decimal.toRat]) (by decide) priced refundable
  obtain ⟨first, _, provided, later, rfl⟩ := List.forall₂_cons_left_iff.mp charged
  obtain ⟨second, _, withdrawn, last, rfl⟩ := List.forall₂_cons_left_iff.mp later
  obtain ⟨third, _, stray, none, rfl⟩ := List.forall₂_cons_left_iff.mp last
  cases none
  obtain ⟨above, below⟩ := withdrawn.capped rfl known rfl
  have unit : Binary64.one.toRat = 1 := by
    rw [Binary64.toRat, if_pos (by decide), show Binary64.one.negative = false by decide,
      show Binary64.one.significand = 2 ^ 52 by decide, show Binary64.one.exponent = -52 by decide]
    norm_num
  have limit : FeeParams.feeLimit ⟨⟨3, 1⟩, 1000000⟩ ⟨"usdt", "orai", .one, []⟩
      ((change .withdraw "orai_usdt").nativeRefunds known) = (1000000 : ℤ) := by
    rw [show (change .withdraw "orai_usdt").nativeRefunds known = ["orai"] by decide]
    simp [FeeParams.feeLimit, PriceBook.price, unit]
  rw [limit, round_intCast] at below
  exact ⟨first, second, third, taxed, provided.provided rfl, above, below, stray.unknown rfl rfl⟩

end LiquidityChange
end PoolIndexer
