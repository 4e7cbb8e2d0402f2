import PoolIndexer.Asset
import PoolIndexer.Proofs.Numeral
import PoolIndexer.Proofs.Result
import PoolIndexer.Table

/-! The check of a batch. Rows whose fields are the columns of their table, in order, pass it when
every value can be read as the type of its column. -/
namespace PoolIndexer

/-! ## Values -/

/-- A value that a column of a type takes. -/
def ColumnType.Accepts (type : ColumnType) (value : Json) : Prop :=
  value ≠ .null ∧ ∃ cell, type.cell? value = some cell

namespace ColumnType

@[simp] theorem accepts_text (s : String) : Accepts .text (.str s) ↔ True := by
  simp [Accepts, cell?]

@[simp] theorem accepts_amount (n : Int) : Accepts .numeric (amountJson n) ↔ True := by
  simp [Accepts, cell?, amountJson, Numeral.integer?_text]

@[simp] theorem accepts_int (n : Int) : Accepts .bigint (.int n) ↔ n < twoTo 63 := by
  simp [Accepts, cell?]

@[simp] theorem accepts_real (x : Binary64) : Accepts .double (realJson x) ↔ x.isFinite := by
  unfold Accepts realJson
  cases finite : x.isFinite with
  | false => simp
  | true => simp [cell?, finite]

end ColumnType

/-! ## Rows -/

namespace Table

variable {table : Table} {index : Nat}

theorem validateColumn_ok {row value : Json} {column : Column}
    (found : row.get? column.name = some value) :
    (∃ cell, table.validateColumn index row column = .ok cell) ↔ column.type.Accepts value := by
  unfold validateColumn ColumnType.Accepts
  rw [found]
  cases value with
  | null => simp
  | _ =>
    simp only [ne_eq, reduceCtorEq, not_false_eq_true, true_and]
    cases column.type.cell? _ <;> simp

/-- A checked cell is read from the field of its column. -/
theorem validateColumn_read {row : Json} {column : Column} {cell : Cell}
    (checked : table.validateColumn index row column = .ok cell) :
    ∃ value, row.get? column.name = some value ∧ column.type.cell? value = some cell := by
  unfold validateColumn at checked
  split at checked
  · cases checked
  · cases checked
  · rename_i value _ found
    split at checked
    · rename_i read
      cases checked
      exact ⟨value, found, read⟩
    · cases checked

/-- Checked rows have one cell for each column. -/
theorem length_of_mem_validate {raw : List Json} {rows : List Row}
    (valid : table.validate raw = .ok rows) {row : Row} (member : row ∈ rows) :
    row.length = table.columns.length := by
  obtain ⟨⟨json, index⟩, -, checked⟩ := Result.mem_mapM valid member
  cases json with
  | obj fields => exact Result.mapM_length checked
  | _ => cases checked

/-- What passes the check of a row, wherever it stands: an object in which every column finds a value
that it takes. -/
structure Takes (table : Table) (row : Json) : Prop where
  object : ∃ fields, row = .obj fields
  columns : ∀ column ∈ table.columns, ∃ value, row.get? column.name = some value ∧
    column.type.Accepts value

theorem validateColumn_takes {row : Json} {column : Column} :
    (∃ cell, table.validateColumn index row column = .ok cell) ↔
      ∃ value, row.get? column.name = some value ∧ column.type.Accepts value := by
  cases found : row.get? column.name with
  | none => simp [validateColumn, found]
  | some value => simp [validateColumn_ok found]

theorem validateRow_takes (row : Json) (index : Nat) :
    (∃ cells, table.validateRow index row = .ok cells) ↔ table.Takes row := by
  cases row with
  | obj fields =>
    have columns : (∃ cells, table.validateRow index (.obj fields) = .ok cells) ↔
        ∀ column ∈ table.columns, ∃ cell,
          table.validateColumn index (.obj fields) column = .ok cell := Result.mapM_ok
    simp only [columns, validateColumn_takes]
    exact ⟨fun all => ⟨⟨fields, rfl⟩, all⟩, Takes.columns⟩
  | _ =>
    simp only [validateRow, reduceCtorEq, exists_false, false_iff]
    rintro ⟨⟨fields, same⟩, -⟩
    cases same

/-- A batch passes when each of its rows does. -/
theorem validate_takes (rows : List Json) :
    (∃ cells, table.validate rows = .ok cells) ↔ ∀ row ∈ rows, table.Takes row := by
  have entries : (∃ cells, table.validate rows = .ok cells) ↔
      ∀ entry ∈ rows.zipIdx, ∃ cells, table.validateRow entry.2 entry.1 = .ok cells :=
    Result.mapM_ok
  simp only [entries, validateRow_takes]
  constructor
  · intro all row member
    obtain ⟨index, bound, rfl⟩ := List.getElem_of_mem member
    have place : (rows[index], index) ∈ rows.zipIdx := by simp [List.mem_zipIdx_iff_getElem?]
    exact all _ place
  · exact fun all entry member => all _ (List.fst_mem_of_mem_zipIdx member)

theorem lookup_of_mem {fields : List (String × Json)} (distinct : (fields.map (·.1)).Nodup)
    {f : String × Json} (member : f ∈ fields) : fields.lookup f.1 = some f.2 := by
  induction fields with
  | nil => cases member
  | cons first rest ih =>
    obtain ⟨name, value⟩ := first
    obtain ⟨absent, distinct⟩ := List.nodup_cons.mp distinct
    rcases List.mem_cons.mp member with rfl | later
    · simp
    · have differs : f.1 ≠ name := by
        rintro rfl
        exact absent (List.mem_map.mpr ⟨f, later, rfl⟩)
      rw [List.lookup_cons, beq_eq_false_iff_ne.mpr differs]
      exact ih distinct later

/-- A row passes when every column takes the value in its place. -/
theorem validateRow_ok {values : List Json} (distinct : (table.columns.map (·.name)).Nodup)
    (complete : table.columns.length = values.length) :
    (∃ cells, table.validateRow index (.obj ((table.columns.map (·.name)).zip values)) = .ok cells)
      ↔ ∀ entry ∈ table.columns.zip values, entry.1.type.Accepts entry.2 := by
  have placed : ∀ entry ∈ table.columns.zip values,
      Json.get? (.obj ((table.columns.map (·.name)).zip values)) entry.1.name = some entry.2 := by
    intro entry member
    refine lookup_of_mem (f := (entry.1.name, entry.2)) ?_ ?_
    · rwa [List.map_fst_zip (by simpa using Nat.le_of_eq complete)]
    · rw [List.zip_map_left]
      exact List.mem_map.mpr ⟨entry, member, rfl⟩
  have covered : ∀ column ∈ table.columns, ∃ value, (column, value) ∈ table.columns.zip values := by
    intro column member
    rw [← List.map_fst_zip (Nat.le_of_eq complete)] at member
    obtain ⟨entry, paired, rfl⟩ := List.mem_map.mp member
    exact ⟨entry.2, paired⟩
  rw [validateRow_takes]
  constructor
  · intro takes entry member
    obtain ⟨value, found, accepted⟩ := takes.columns _ (List.of_mem_zip member).1
    rw [placed entry member] at found
    cases found
    exact accepted
  · refine fun all => ⟨⟨_, rfl⟩, fun column member => ?_⟩
    obtain ⟨value, paired⟩ := covered column member
    exact ⟨value, placed _ paired, all _ paired⟩

/-- The same for a row that is given by its fields. -/
theorem validateRow_fields {fields : List (String × Json)}
    (named : fields.map (·.1) = table.columns.map (·.name))
    (distinct : (table.columns.map (·.name)).Nodup) :
    (∃ cells, table.validateRow index (.obj fields) = .ok cells) ↔
      ∀ entry ∈ table.columns.zip (fields.map (·.2)), entry.1.type.Accepts entry.2 := by
  have paired : fields = (table.columns.map (·.name)).zip (fields.map (·.2)) := by
    rw [← named, List.zip_map', List.map_id']
  have complete : table.columns.length = (fields.map (·.2)).length := by
    simpa using (congrArg List.length named).symm
  rw [← validateRow_ok distinct complete, ← paired]

end Table

/-- Records pass when each of them does, wherever it stands. -/
theorem Record.rows_ok {α : Type} [Record α] {P : α → Prop}
    (each : ∀ record index,
      (∃ cells, (table α).validateRow index (toJson record) = .ok cells) ↔ P record)
    {records : List α} : (∃ cells, rows records = .ok cells) ↔ ∀ record ∈ records, P record := by
  unfold rows
  rw [Table.validate_takes, List.forall_mem_map]
  exact forall₂_congr fun record _ => (Table.validateRow_takes _ 0).symm.trans (each record 0)

end PoolIndexer
