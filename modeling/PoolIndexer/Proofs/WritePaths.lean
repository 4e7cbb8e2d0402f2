import PoolIndexer.Indexer
import PoolIndexer.Proofs.ChunkWrite
import PoolIndexer.Proofs.Record
import PoolIndexer.Proofs.Task

/-! The two ways into the store in memory. A chunk is committed as the records it holds; records
that are inserted go through their stored forms, which are checked and read back. Table by table
and with the checkpoint last, a chunk comes to the same store as in one commit. -/
namespace PoolIndexer

/-! ## Records that are restored -/

/-- Records that pass the check of their table and are what their stored forms are read as. -/
structure Record.Restored {α : Type} [Record α] (records : List α) : Prop where
  checked : ∃ cells, rows records = .ok cells
  readBack : ∀ r ∈ records, ReadsBack r

namespace ChunkWrite

/-- The times of all records. -/
def times (w : ChunkWrite) : List Int :=
  w.swaps.map (·.time) ++ w.changes.map (·.time) ++ w.candles.map (·.time)
    ++ w.stakes.map (·.time) ++ w.earnings.map (·.time) ++ w.poolAmounts.map (·.time)
    ++ w.poolAprs.map (·.time)

/-- No time is below what a signed 64-bit word kind. -/
def Timed (w : ChunkWrite) : Prop := ∀ time ∈ w.times, -twoTo 63 ≤ time

/-- The records of every kind are restored. -/
structure Restored (w : ChunkWrite) : Prop where
  swaps : Record.Restored w.swaps
  changes : Record.Restored w.changes
  candles : Record.Restored w.candles
  stakes : Record.Restored w.stakes
  earnings : Record.Restored w.earnings
  poolAmounts : Record.Restored w.poolAmounts
  poolAprs : Record.Restored w.poolAprs

end ChunkWrite

theorem Stamped.inWords {height : Nat} {time : Int} (stamped : Stamped height time)
    (low : -twoTo 63 ≤ time) : InWords height time where
  height := Nat.lt_trans stamped.1 (by decide)
  low := low
  high := stamped.2

/-- Records are restored where being accepted makes one of them fit its words. -/
theorem Record.restored {α : Type} [Record α] {P : α → Prop} {records : List α}
    (each : ∀ record index,
      (∃ cells, (table α).validateRow index (toJson record) = .ok cells) ↔ P record)
    (fits : ∀ r ∈ records, P r) (readBack : ∀ r ∈ records, P r → ReadsBack r) :
    Restored records where
  checked := (rows_ok each).mpr fits
  readBack r member := readBack r member (fits r member)

theorem ChunkWrite.Fits.restored {w : ChunkWrite} (fits : w.Fits) (timed : w.Timed) :
    w.Restored := by
  simp only [Timed, times, List.mem_append, or_imp, forall_and, List.forall_mem_map] at timed
  obtain ⟨⟨⟨⟨⟨⟨swaps, changes⟩, candles⟩, stakes⟩, earnings⟩, poolAmounts⟩, poolAprs⟩ := timed
  constructor
  · exact Record.restored Swap.validateRow_stamped fits.swaps fun op member stamped =>
      Swap.readsBack (stamped.inWords (swaps op member))
  · exact Record.restored LiquidityChange.validateRow_stamped fits.changes
      fun op member stamped => LiquidityChange.readsBack (stamped.inWords (changes op member))
  · exact Record.restored Candle.validateRow_fits fits.candles fun c member fits =>
      have stamped : Stamped c.height c.time := ⟨fits.height, fits.time⟩
      Candle.readsBack (stamped.inWords (candles c member)) fits.openPrice fits.high fits.low
        fits.close
  · exact Record.restored Stake.validateRow_stamped fits.stakes fun op member stamped =>
      Stake.readsBack (stamped.inWords (stakes op member))
  · exact Record.restored Earning.validateRow_stamped fits.earnings fun op member stamped =>
      Earning.readsBack (stamped.inWords (earnings op member))
  · exact Record.restored PoolAmount.validateRow_stamped fits.poolAmounts
      fun r member stamped => PoolAmount.readsBack (stamped.inWords (poolAmounts r member))
  · exact Record.restored PoolApr.validateRow_finite fits.poolAprs fun r member fits =>
      PoolApr.readsBack (fits.2.inWords (poolAprs r member)) fits.1

/-! ## Inserting -/

variable {α : Type} [Record α] {records : List α} {make : List α → Batch}

theorem Batch.decode_restored (readBack : ∀ r ∈ records, Record.ReadsBack r) :
    decode (records.map Record.toJson) = .ok records := by
  have read : (records.map Record.toJson).mapM Record.ofJson? = some records := by
    rw [List.mapM_map]
    induction records with
    | nil => rfl
    | cons r rest ih =>
      obtain ⟨first, others⟩ := List.forall_mem_cons.mp readBack
      have first : Record.ofJson? (Record.toJson r) = some r := first
      simp [first, ih others]
  rw [decode, read]

theorem Store.insert_restored (kind : Batch.Kind make) (restored : Record.Restored records)
    (s : Store) :
    s.insert (Record.table α) (records.map Record.toJson) =
      .ok (records.length, s.add (make records)) := by
  obtain ⟨cells, checked⟩ := restored.checked
  have checked : (Record.table α).validate (records.map Record.toJson) = .ok cells := checked
  rw [insert, checked, kind.ofRows, Batch.decode_restored restored.readBack]
  simp [Except.map, bind, Except.bind, pure, Except.pure]

namespace Indexer

theorem insertRecords_restored (kind : Batch.Kind make) (restored : Record.Restored records)
    (v : World Store) :
    insertRecords Store.backend records v =
      (.ok (), { v with store := v.store.add (make records) }) := by
  cases records with
  | nil => rw [kind.add_nil]; rfl
  | cons r rest =>
    have inserted := Store.insert_restored kind restored v.store
    have acted : Store.backend.insert (Record.table α) ((r :: rest).map Record.toJson) v.store =
        (.ok (r :: rest).length, v.store.add (make (r :: rest))) := by
      simp only [Store.backend, Action.change, inserted]
    rw [insertRecords, Task.bind_apply, Task.perform, acted]
    · rfl
    · simp

/-- Writes a chunk table by table, and its checkpoint last. -/
def writeApart {σ : Type} (backend : Backend σ) (w : ChunkWrite) : Task σ Nat := do
  insertRecords backend w.swaps
  insertRecords backend w.changes
  insertRecords backend w.candles
  insertRecords backend w.stakes
  insertRecords backend w.earnings
  insertRecords backend w.poolAmounts
  insertRecords backend w.poolAprs
  Task.perform [] (backend.seedCheckpoint w.newHeight)

end Indexer

/-- A chunk that passes its check is committed, and inserting its records table by table and then
raising the checkpoint succeeds with the same store. Every record of it is what its stored form is
read as. -/
theorem writeApart_commit {w : ChunkWrite} (checked : w.validatedBatches.isOk)
    (timed : w.Timed) :
    (∀ v : World Store, ∃ s', Store.backend.commit w v.store = (.ok (), s') ∧
      Indexer.writeApart Store.backend w v =
        (.ok (max (v.store.checkpoint.getD 0) w.newHeight), { v with store := s' })) ∧
    w.Restored := by
  obtain ⟨batches, checked⟩ := Result.isOk_iff.mp checked
  have restored := (w.validatedBatches_fits.mp ⟨batches, checked⟩).restored timed
  refine ⟨fun v => ⟨v.store.applyChunk w, ?_, ?_⟩, restored⟩
  · simp [Store.backend, Action.change, Store.commit, checked, Except.map]
  · simp only [Indexer.writeApart, Task.bind_apply,
      Indexer.insertRecords_restored Batch.swaps_kind restored.swaps,
      Indexer.insertRecords_restored Batch.changes_kind restored.changes,
      Indexer.insertRecords_restored Batch.candles_kind restored.candles,
      Indexer.insertRecords_restored Batch.stakes_kind restored.stakes,
      Indexer.insertRecords_restored Batch.earnings_kind restored.earnings,
      Indexer.insertRecords_restored Batch.poolAmounts_kind restored.poolAmounts,
      Indexer.insertRecords_restored Batch.poolAprs_kind restored.poolAprs]
    simp only [Task.perform, Store.backend, Action.change, Store.seedCheckpoint_eq]
    rfl

/-! Records of every kind, of which two have the same key. -/

def mixedWrite : ChunkWrite where
  newHeight := 160
  swaps := [⟨"0-0-a", "a", 150, 1, "p", "s", "x", 7, "y", 6, 0, 0, 0, 0, 0⟩]
  changes := [⟨"0-1-a", "a", 150, 1, "p", "s", .withdraw, "x", -3, "y", 2, 1, 0, 0, 0⟩]
  candles := [⟨"x/y-0", "x/y", 0, 150, .one, .one, .one, .one, 7⟩]
  stakes := [⟨"0-2-a", "a", 150, 1, "s", "l", 5, 0⟩]
  earnings := [⟨"0-3-a", "a", 150, -1, "s", "l", "x", 5, 0⟩]
  poolAmounts := [⟨"1-p", "p", 10, 20, 5, 150, 1⟩, ⟨"1-p", "p", 11, 19, 5, 160, 1⟩]
  poolAprs := [⟨"1-p", "p", 5, 5, "[]", .one, 160, 1⟩]

theorem writeApart_commit_mixed :
    (mixedWrite.validatedBatches.isOk = true ∧ mixedWrite.Timed) ∧
    (∀ v : World Store, ∃ s', Store.backend.commit mixedWrite v.store = (.ok (), s') ∧
      Indexer.writeApart Store.backend mixedWrite v =
        (.ok (max (v.store.checkpoint.getD 0) 160), { v with store := s' })) ∧
    mixedWrite.Restored := by
  have checked : mixedWrite.validatedBatches.isOk = true := by decide +kernel
  have timed : mixedWrite.Timed := by unfold ChunkWrite.Timed; decide
  exact ⟨⟨checked, timed⟩, writeApart_commit checked timed⟩

end PoolIndexer
