import PoolIndexer.Proofs.Candle.Cutting

/-! Which writes pass the check of their batches: those whose heights and times fit a signed 64-bit
word, and whose prices and yields are finite. -/
namespace PoolIndexer

/-- A height and a time that fit their columns. -/
def Stamped (height : Nat) (time : Int) : Prop := height < twoTo 63 ∧ time < twoTo 63

/-! ## Rows -/

theorem Swap.validateRow_stamped (op : Swap) (index : Nat) :
    (∃ cells, Swap.table.validateRow index op.toJson = .ok cells) ↔ Stamped op.height op.time := by
  unfold Swap.toJson
  rw [Table.validateRow_fields rfl (by decide)]
  simp [Swap.table, Stamped]

theorem LiquidityChange.validateRow_stamped (op : LiquidityChange) (index : Nat) :
    (∃ cells, LiquidityChange.table.validateRow index op.toJson = .ok cells) ↔
      Stamped op.height op.time := by
  unfold LiquidityChange.toJson
  rw [Table.validateRow_fields rfl (by decide)]
  simp [LiquidityChange.table, Stamped]

theorem Stake.validateRow_stamped (op : Stake) (index : Nat) :
    (∃ cells, Stake.table.validateRow index op.toJson = .ok cells) ↔ Stamped op.height op.time := by
  unfold Stake.toJson
  rw [Table.validateRow_fields rfl (by decide)]
  simp [Stake.table, Stamped]

theorem Earning.validateRow_stamped (op : Earning) (index : Nat) :
    (∃ cells, Earning.table.validateRow index op.toJson = .ok cells) ↔
      Stamped op.height op.time := by
  unfold Earning.toJson
  rw [Table.validateRow_fields rfl (by decide)]
  simp [Earning.table, Stamped]

theorem PoolAmount.validateRow_stamped (row : PoolAmount) (index : Nat) :
    (∃ cells, PoolAmount.table.validateRow index row.toJson = .ok cells) ↔
      Stamped row.height row.time := by
  unfold PoolAmount.toJson
  rw [Table.validateRow_fields rfl (by decide)]
  simp [PoolAmount.table, Stamped]

theorem PoolApr.validateRow_finite (row : PoolApr) (index : Nat) :
    (∃ cells, PoolApr.table.validateRow index row.toJson = .ok cells) ↔
      row.apr.isFinite ∧ Stamped row.height row.time := by
  unfold PoolApr.toJson
  rw [Table.validateRow_fields rfl (by decide)]
  simp [PoolApr.table, Stamped]

/-! ## Batches -/

namespace ChunkWrite

/-- Every row of the write fits its table. -/
structure Fits (w : ChunkWrite) : Prop where
  swaps : ∀ op ∈ w.swaps, Stamped op.height op.time
  changes : ∀ op ∈ w.changes, Stamped op.height op.time
  candles : ∀ c ∈ w.candles, c.Fits
  stakes : ∀ op ∈ w.stakes, Stamped op.height op.time
  earnings : ∀ op ∈ w.earnings, Stamped op.height op.time
  poolAmounts : ∀ row ∈ w.poolAmounts, Stamped row.height row.time
  poolAprs : ∀ row ∈ w.poolAprs, row.apr.isFinite ∧ Stamped row.height row.time

theorem validatedBatches_fits (w : ChunkWrite) :
    (∃ batches, w.validatedBatches = .ok batches) ↔ w.Fits := by
  have swaps := batch_accepts Swap.validateRow_stamped w.swaps
  have changes := batch_accepts LiquidityChange.validateRow_stamped w.changes
  have stakes := batch_accepts Stake.validateRow_stamped w.stakes
  have earnings := batch_accepts Earning.validateRow_stamped w.earnings
  have poolAmounts := batch_accepts PoolAmount.validateRow_stamped w.poolAmounts
  have poolAprs := batch_accepts PoolApr.validateRow_finite w.poolAprs
  unfold validatedBatches
  simp only [Result.exists_bind_ok]
  constructor
  · rintro ⟨_, swapsOk, _, changesOk, _, candlesOk, _, stakesOk, _, earningsOk, _, amountsOk,
      _, aprsOk, _⟩
    exact ⟨swaps.mp ⟨_, swapsOk⟩, changes.mp ⟨_, changesOk⟩, batch_candles.mp ⟨_, candlesOk⟩,
      stakes.mp ⟨_, stakesOk⟩, earnings.mp ⟨_, earningsOk⟩, poolAmounts.mp ⟨_, amountsOk⟩,
      poolAprs.mp ⟨_, aprsOk⟩⟩
  · intro fits
    obtain ⟨_, swapsOk⟩ := swaps.mpr fits.swaps
    obtain ⟨_, changesOk⟩ := changes.mpr fits.changes
    obtain ⟨_, candlesOk⟩ := batch_candles.mpr fits.candles
    obtain ⟨_, stakesOk⟩ := stakes.mpr fits.stakes
    obtain ⟨_, earningsOk⟩ := earnings.mpr fits.earnings
    obtain ⟨_, amountsOk⟩ := poolAmounts.mpr fits.poolAmounts
    obtain ⟨_, aprsOk⟩ := poolAprs.mpr fits.poolAprs
    exact ⟨_, swapsOk, _, changesOk, _, candlesOk, _, stakesOk, _, earningsOk, _, amountsOk,
      _, aprsOk, _, rfl⟩

end ChunkWrite

/-- A write is refused for its check and for nothing else. -/
theorem commit_fits (s : Store) (write : ChunkWrite) :
    (∃ s', s.commit write = .ok s') ↔ write.Fits := by
  rw [← ChunkWrite.validatedBatches_fits]
  unfold Store.commit
  cases write.validatedBatches with
  | error e => simp
  | ok batches => simp

end PoolIndexer
