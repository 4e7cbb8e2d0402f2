import PoolIndexer.ChunkWrite
import PoolIndexer.Proofs.Ledger
import PoolIndexer.Proofs.Runs
import PoolIndexer.Proofs.Table
import PoolIndexer.Sql.Statement

/-! What insertions add to tables whose rows have no key. Every inserted row is kept there, so the
contents of such a table are the rows of all insertions into it. -/
namespace PoolIndexer

namespace Sql

/-- The name of a table as it stands before the columns. -/
def tableHead (table : Table) : List Char := table.name.toList ++ [' ', '(']

/-- What every insertion into a table begins with. -/
def insertHead (table : Table) : List Char := "INSERT INTO ".toList ++ tableHead table

/-- The rows that a statement adds to a table without a key: the parameters of an insertion into
it, row by row. -/
def addedRows (table : Table) (statement : Statement) : List (List Parameter) :=
  if insertHead table <+: statement.text.toList then
    runs table.columns.length statement.parameters
  else []

theorem insertText_head (table : Table) (rows : Nat) :
    ∃ tail, (insertText table rows).toList = insertHead table ++ tail := by
  unfold insertText insertHead tableHead
  simp only [String.toList_append, List.append_assoc]
  exact ⟨_, rfl⟩

/-- The tables cannot be taken for one another. -/
theorem tableHead_apart : ∀ table ∈ allTables, ∀ other ∈ allTables, table.name ≠ other.name →
    ¬ tableHead table <+: tableHead other := by
  decide +kernel

theorem insertHead_apart {table other : Table} (known : table ∈ allTables)
    (knownOther : other ∈ allTables) (differ : table.name ≠ other.name) :
    ¬ insertHead table <+: insertHead other := by
  unfold insertHead
  rw [List.prefix_append_right_inj]
  exact tableHead_apart table known other knownOther differ

theorem raiseCheckpoint_head (height : Nat) :
    ∃ tail, (raiseCheckpoint height).text.toList =
      "INSERT INTO ".toList ++ ("height_snapshot (".toList ++ tail) := by
  refine ⟨"id, current_ind, updated_at) VALUES (1, $1, $2)
    ON CONFLICT (id) DO UPDATE SET current_ind = EXCLUDED.current_ind,
    updated_at = EXCLUDED.updated_at
    WHERE height_snapshot.current_ind < EXCLUDED.current_ind".toList, ?_⟩
  rw [← String.toList_append, ← String.toList_append]
  have same : (raiseCheckpoint height).text = (raiseCheckpoint 0).text := rfl
  rw [same]
  refine congrArg String.toList ?_
  decide +kernel

theorem height_snapshot_apart : ∀ table ∈ allTables,
    ¬ tableHead table <+: "height_snapshot (".toList ∧
      ¬ "height_snapshot (".toList <+: tableHead table := by
  decide +kernel

theorem addedRows_raiseCheckpoint {table : Table} (known : table ∈ allTables) (height : Nat) :
    addedRows table (raiseCheckpoint height) = [] := by
  refine if_neg fun head => ?_
  obtain ⟨tail, begins⟩ := raiseCheckpoint_head height
  unfold insertHead at head
  rw [begins, List.prefix_append_right_inj] at head
  obtain ⟨apart, apart'⟩ := height_snapshot_apart table known
  rcases List.prefix_or_prefix_of_prefix head (List.prefix_append _ tail) with within | within
  · exact apart within
  · exact apart' within

theorem addedRows_same {table : Table} {rows : List Row} (columns : table.columns ≠ [])
    (full : ∀ row ∈ rows, row.length = table.columns.length) :
    addedRows table (insertStatement table rows) = rows.map (·.map Parameter.ofCell) := by
  obtain ⟨tail, begins⟩ := insertText_head table rows.length
  have head : insertHead table <+: (insertStatement table rows).text.toList :=
    ⟨tail, begins.symm⟩
  have positive : 0 < table.columns.length := List.length_pos_iff.mpr columns
  unfold addedRows
  rw [if_pos head]
  unfold insertStatement
  rw [List.map_flatten]
  refine runs_flatten positive fun l member => ?_
  obtain ⟨row, among, rfl⟩ := List.mem_map.mp member
  rw [List.length_map]
  exact full row among

theorem addedRows_other {table other : Table} (known : table ∈ allTables)
    (knownOther : other ∈ allTables) (differ : table.name ≠ other.name) (rows : List Row) :
    addedRows table (insertStatement other rows) = [] := by
  refine if_neg fun head => ?_
  obtain ⟨tail, begins⟩ := insertText_head other rows.length
  have begins : (insertStatement other rows).text.toList = insertHead other ++ tail := begins
  rw [begins] at head
  rcases List.prefix_or_prefix_of_prefix head (List.prefix_append _ tail) with within | within
  · exact insertHead_apart known knownOther differ within
  · exact insertHead_apart knownOther known differ.symm within

/-! ## Batches -/

/-- The rows that batches hold for a table, with their values as they are bound. -/
def batchRows (table : Table) (batches : List (Table × List Row)) : List (List Parameter) :=
  batches.flatMap fun batch =>
    if batch.1.name = table.name then batch.2.map (·.map Parameter.ofCell) else []

/-- A batch of one of the tables, with as many cells in every row as the table has columns. -/
structure Checked (batch : Table × List Row) : Prop where
  known : batch.1 ∈ allTables
  full : ∀ row ∈ batch.2, row.length = batch.1.columns.length

theorem columns_ne_nil : ∀ table ∈ allTables, table.columns ≠ [] := by decide

theorem eq_of_name : ∀ table ∈ allTables, ∀ other ∈ allTables, table.name = other.name →
    table = other := by decide

/-- Rows are written in several statements, and all of them are. -/
theorem addedRows_insertStatements {table : Table} (known : table ∈ allTables)
    {batch : Table × List Row} (checked : Checked batch) :
    (insertStatements batch.1 batch.2).flatMap (addedRows table) =
      if batch.1.name = table.name then batch.2.map (·.map Parameter.ofCell) else [] := by
  unfold insertStatements
  rw [List.flatMap_map]
  split
  · rename_i name
    have same : batch.1 = table := eq_of_name _ checked.known _ known name
    have each : ∀ rows ∈ runs (rowsPerStatement batch.1) batch.2,
        addedRows table (insertStatement batch.1 rows) = rows.map (·.map Parameter.ofCell) := by
      intro rows member
      rw [same]
      refine addedRows_same (columns_ne_nil table known) fun row among => ?_
      have within : row ∈ batch.2 := by
        rw [← flatten_runs (rowsPerStatement batch.1) batch.2]
        exact List.mem_flatten.mpr ⟨rows, member, among⟩
      rw [← same]
      exact checked.full row within
    rw [List.flatMap_def, List.map_congr_left each, ← List.map_flatten, flatten_runs]
  · rename_i differ
    rw [List.flatMap_eq_nil_iff]
    intro rows _
    exact addedRows_other known checked.known (fun same => differ same.symm) rows

/-! ## Chunks -/

/-- The tables whose rows have no key. -/
def appendTables : List Table :=
  [Swap.table, LiquidityChange.table, Candle.table, Stake.table, Earning.table]

theorem appendTables_known : ∀ table ∈ appendTables, table ∈ allTables := by decide

theorem batchRows_append (table : Table) (batches others : List (Table × List Row)) :
    batchRows table (batches ++ others) = batchRows table batches ++ batchRows table others :=
  List.flatMap_append

/-- Records give a batch of their own table or none at all. -/
theorem batch_ok {α : Type} [Record α] {records : List α} {batches : List (Table × List Row)}
    (validated : ChunkWrite.batch records = .ok batches) :
    ∀ batch ∈ batches, batch.1 = Record.table α ∧ Record.rows records = .ok batch.2 := by
  unfold ChunkWrite.batch at validated
  split at validated
  · cases validated
    simp
  · obtain ⟨rows, checked, same⟩ := Result.bind_ok.mp validated
    cases same
    simpa using checked

theorem batch_checked {α : Type} [Record α] (known : Record.table α ∈ allTables)
    {records : List α} {batches : List (Table × List Row)}
    (validated : ChunkWrite.batch records = .ok batches) : ∀ batch ∈ batches, Checked batch := by
  intro batch member
  obtain ⟨table, checked⟩ := batch_ok validated batch member
  refine ⟨by rwa [table], fun row among => ?_⟩
  rw [table]
  exact Table.length_of_mem_validate checked among

theorem validatedBatches_parts {w : ChunkWrite} {batches : List (Table × List Row)}
    (validated : w.validatedBatches = .ok batches) :
    ∃ swaps changes candles stakes earnings amounts aprs,
      (ChunkWrite.batch w.swaps = .ok swaps ∧ ChunkWrite.batch w.changes = .ok changes ∧
        ChunkWrite.batch w.candles = .ok candles ∧ ChunkWrite.batch w.stakes = .ok stakes ∧
        ChunkWrite.batch w.earnings = .ok earnings ∧ ChunkWrite.batch w.poolAmounts = .ok amounts ∧
        ChunkWrite.batch w.poolAprs = .ok aprs) ∧
      batches = swaps ++ changes ++ candles ++ stakes ++ earnings ++ amounts ++ aprs := by
  obtain ⟨swaps, swapsOk, rest⟩ := Result.bind_ok.mp validated
  obtain ⟨changes, changesOk, rest⟩ := Result.bind_ok.mp rest
  obtain ⟨candles, candlesOk, rest⟩ := Result.bind_ok.mp rest
  obtain ⟨stakes, stakesOk, rest⟩ := Result.bind_ok.mp rest
  obtain ⟨earnings, earningsOk, rest⟩ := Result.bind_ok.mp rest
  obtain ⟨amounts, amountsOk, rest⟩ := Result.bind_ok.mp rest
  obtain ⟨aprs, aprsOk, rest⟩ := Result.bind_ok.mp rest
  cases rest
  exact ⟨swaps, changes, candles, stakes, earnings, amounts, aprs,
    ⟨swapsOk, changesOk, candlesOk, stakesOk, earningsOk, amountsOk, aprsOk⟩, rfl⟩

/-- The batches of a chunk are those of the chunk without yields, and then those of the yields. -/
theorem validatedBatches_ok {w : ChunkWrite} {batches : List (Table × List Row)}
    (validated : w.validatedBatches = .ok batches) :
    ∃ first aprs, w.withoutAprs.validatedBatches = .ok first ∧
      ChunkWrite.batch w.poolAprs = .ok aprs ∧ batches = first ++ aprs := by
  obtain ⟨swaps, changes, candles, stakes, earnings, amounts, aprs,
    ⟨swapsOk, changesOk, candlesOk, stakesOk, earningsOk, amountsOk, aprsOk⟩, rfl⟩ :=
    validatedBatches_parts validated
  refine ⟨swaps ++ changes ++ candles ++ stakes ++ earnings ++ amounts ++ [], aprs, ?_, aprsOk,
    by simp⟩
  unfold ChunkWrite.validatedBatches ChunkWrite.withoutAprs
  simp only [swapsOk, changesOk, candlesOk, stakesOk, earningsOk, amountsOk]
  rfl

/-- What holds of the batches of records of every kind holds of all batches of a chunk. -/
theorem validatedBatches_all {P : Table × List Row → Prop}
    (each : ∀ {α : Type} [Record α] {records : List α} {batches : List (Table × List Row)},
      Record.table α ∈ allTables → ChunkWrite.batch records = .ok batches →
        ∀ batch ∈ batches, P batch)
    {w : ChunkWrite} {batches : List (Table × List Row)}
    (validated : w.validatedBatches = .ok batches) : ∀ batch ∈ batches, P batch := by
  obtain ⟨swaps, changes, candles, stakes, earnings, amounts, aprs,
    ⟨swapsOk, changesOk, candlesOk, stakesOk, earningsOk, amountsOk, aprsOk⟩, rfl⟩ :=
    validatedBatches_parts validated
  simp only [List.forall_mem_append]
  exact ⟨⟨⟨⟨⟨⟨each (by decide) swapsOk, each (by decide) changesOk⟩, each (by decide) candlesOk⟩,
    each (by decide) stakesOk⟩, each (by decide) earningsOk⟩, each (by decide) amountsOk⟩,
    each (by decide) aprsOk⟩

theorem validatedBatches_checked {w : ChunkWrite} {batches : List (Table × List Row)}
    (validated : w.validatedBatches = .ok batches) : ∀ batch ∈ batches, Checked batch :=
  validatedBatches_all (fun known checked => batch_checked known checked) validated

/-- The rows of a chunk for a table without a key. -/
def writtenRows (w : ChunkWrite) (table : Table) : List (List Parameter) :=
  match w.withoutAprs.validatedBatches with
  | .ok batches => batchRows table batches
  | .error _ => []

theorem batchRows_validated {w : ChunkWrite} {batches : List (Table × List Row)}
    (validated : w.validatedBatches = .ok batches) {table : Table} (append : table ∈ appendTables) :
    batchRows table batches = writtenRows w table := by
  obtain ⟨first, aprs, firstOk, aprsOk, rfl⟩ := validatedBatches_ok validated
  have none : batchRows table aprs = [] := by
    unfold batchRows
    rw [List.flatMap_eq_nil_iff]
    intro batch member
    have differ : PoolApr.table.name ≠ table.name := by
      revert append
      revert table
      decide
    rw [(batch_ok aprsOk batch member).1]
    exact if_neg differ
  unfold writtenRows
  rw [firstOk, batchRows_append, none, List.append_nil]

end Sql
end PoolIndexer
