import PoolIndexer.Proofs.Binary64
import PoolIndexer.Proofs.Result.Lists
import PoolIndexer.Proofs.Table

/-! What the check of a batch says about its rows: which cells it gives, which fault it names when
it gives none, and that cells are in a form in which they pass the check unchanged. -/
namespace PoolIndexer

/-! ## Values -/

/-- How a value is read as a type. Amounts may have a sign and underscores among their digits, words
a sign, and either may stand between blanks. -/
inductive ColumnType.Reads : ColumnType → Json → Cell → Prop
  | text (s : String) : Reads .text (.str s) (.text s)
  | textOfBool (b : Bool) : Reads .text (.bool b) (.text (if b then "true" else "false"))
  | textOfInt (n : Int) : Reads .text (.int n) (.text (Numeral.text n))
  | textOfReal (x : Binary64) : Reads .text (.real x) (.text (Json.real x).compact)
  | numeric (n : Int) : Reads .numeric (.int n) (.numeric n)
  | numericOfText {s : String} {n : Int}
      (spelled : Numeral.Signed Numeral.Grouped (trim s.toList) n) :
      Reads .numeric (.str s) (.numeric n)
  | bigint {n : Int} (small : n < twoTo 63) : Reads .bigint (.int n) (.bigint n)
  | bigintOfText {s : String} {n : Int} (spelled : Numeral.Signed Numeral.Digits (trim s.toList) n)
      (low : -(twoTo 63 : Int) ≤ n) (high : n < twoTo 63) : Reads .bigint (.str s) (.bigint n)
  | doubleOfInt (n : Int) : Reads .double (.int n) (.double (.ofInt n))
  | double {x : Binary64} (finite : x.isFinite = true) : Reads .double (.real x) (.double x)
  | doubleOfText {s : String} {x : Binary64} (spelled : Binary64.ofText? (trim s.toList) = some x)
      (finite : x.isFinite = true) : Reads .double (.str s) (.double x)

namespace ColumnType

variable {type : ColumnType} {value : Json} {cell : Cell}

theorem cell?_of_reads (reads : type.Reads value cell) : type.cell? value = some cell := by
  cases reads with
  | text | textOfInt | textOfReal | numeric | doubleOfInt => rfl
  | textOfBool b => cases b <;> rfl
  | numericOfText spelled => simp [cell?, Numeral.integer?_iff.mpr spelled]
  | bigint small => simp [cell?, small]
  | @bigintOfText s n spelled low high =>
    have read : Numeral.int64? (trim s.toList) = some n :=
      Numeral.bounded?_iff.mpr ⟨spelled, low, by omega⟩
    simp [cell?, read]
  | double finite => simp [cell?, finite]
  | doubleOfText spelled finite => simp [cell?, spelled, finite]

theorem reads_of_cell? (read : type.cell? value = some cell) : type.Reads value cell := by
  cases type with
  | text =>
    cases value with
    | str s =>
      cases read
      exact .text s
    | bool b =>
      cases read
      cases b
      · exact .textOfBool false
      · exact .textOfBool true
    | int n =>
      cases read
      exact .textOfInt n
    | real x =>
      cases read
      exact .textOfReal x
    | _ => cases read
  | numeric =>
    cases value with
    | int n =>
      cases read
      exact .numeric n
    | str s =>
      obtain ⟨n, spelled, rfl⟩ := Option.map_eq_some_iff.mp read
      exact .numericOfText (Numeral.integer?_iff.mp spelled)
    | _ => cases read
  | bigint =>
    cases value with
    | int n =>
      obtain ⟨small, same⟩ := Option.ite_none_right_eq_some.mp read
      cases same
      exact .bigint small
    | str s =>
      obtain ⟨n, within, rfl⟩ := Option.map_eq_some_iff.mp read
      obtain ⟨spelled, low, high⟩ := Numeral.bounded?_iff.mp within
      exact .bigintOfText spelled low (by omega)
    | _ => cases read
  | double =>
    cases value with
    | int n =>
      cases read
      exact .doubleOfInt n
    | real x =>
      obtain ⟨finite, same⟩ := Option.ite_none_right_eq_some.mp read
      cases same
      exact .double finite
    | str s =>
      simp only [cell?] at read
      split at read
      · rename_i spelled
        obtain ⟨finite, same⟩ := Option.ite_none_right_eq_some.mp read
        cases same
        exact .doubleOfText spelled finite
      · cases read
    | _ => cases read

theorem Reads.ne_null (reads : type.Reads value cell) : value ≠ .null := by
  rintro rfl
  cases reads

theorem reads_iff : type.Reads value cell ↔ type.cell? value = some cell :=
  ⟨cell?_of_reads, reads_of_cell?⟩

end ColumnType

/-! ## Cells -/

theorem Binary64.ofInt_isFinite {n : Int} (low : -(twoTo 63 : Int) ≤ n) (high : n < twoTo 64) :
    (Binary64.ofInt n).isFinite = true := by
  have double : twoTo 64 = twoTo 63 + twoTo 63 := by decide
  have small : n.natAbs < twoTo 1023 :=
    calc n.natAbs ≤ twoTo 64 := by omega
      _ < twoTo 65 := by decide
      _ ≤ twoTo 1023 := twoTo_le (by decide)
  exact Binary64.ofRatio_isFinite_of_lt (by decide) small _

/-- A cell in the form of its column: an amount in canonical digits, a word of 64 bits, a finite
number. -/
def Cell.OfType : ColumnType → Cell → Prop
  | .text, .text _ => True
  | .numeric, .numeric n => Numeral.Canonical (Numeral.text n).toList
  | .bigint, .bigint n => -(twoTo 63 : Int) ≤ n ∧ n < twoTo 63
  | .double, .double x => x.isFinite = true
  | _, _ => False

/-- A cell as a JSON value, an amount as its digits. -/
def Cell.toJson : Cell → Json
  | .text s => .str s
  | .numeric n => .str (Numeral.text n)
  | .bigint n => .int n
  | .double x => .real x

namespace Cell

variable {type : ColumnType} {cell : Cell}

/-- What is read has the form of its column, if whole numbers fit 64 bits, as signed or as unsigned
ones. -/
theorem ofType_of_reads {value : Json} (reads : type.Reads value cell)
    (words : ∀ n, value = .int n → -(twoTo 63 : Int) ≤ n ∧ n < twoTo 64) : cell.OfType type := by
  have canonical : ∀ n, Numeral.Canonical (Numeral.text n).toList := by
    intro n
    rw [Numeral.text, String.toList_ofList]
    exact Numeral.canonical_ofInt n
  cases reads with
  | text | textOfBool | textOfInt | textOfReal => trivial
  | numeric n => exact canonical n
  | numericOfText => exact canonical _
  | bigint small => exact ⟨(words _ rfl).1, small⟩
  | bigintOfText _ low high => exact ⟨low, high⟩
  | doubleOfInt n => exact Binary64.ofInt_isFinite (words n rfl).1 (words n rfl).2
  | double finite => exact finite
  | doubleOfText _ finite => exact finite

/-- A cell is read from its JSON value as it is. -/
theorem OfType.reads (fits : cell.OfType type) : type.Reads cell.toJson cell := by
  cases cell with
  | text s =>
    cases type with
    | text => exact .text s
    | _ => cases fits
  | numeric n =>
    cases type with
    | numeric => exact .numericOfText (Numeral.integer?_iff.mp (Numeral.integer?_text n))
    | _ => cases fits
  | bigint n =>
    cases type with
    | bigint => exact .bigint fits.2
    | _ => cases fits
  | double x =>
    cases type with
    | double => exact .double fits
    | _ => cases fits

theorem toJson_ne_null (cell : Cell) : cell.toJson ≠ .null := by
  cases cell <;> simp [toJson]

end Cell

/-- The whole numbers among the fields of a row fit 64 bits, as signed or as unsigned ones. -/
def Json.FitsWords (row : Json) : Prop :=
  ∀ name n, row.get? name = some (.int n) → -(twoTo 63 : Int) ≤ n ∧ n < twoTo 64

theorem Json.fitsWords_obj {fields : List (String × Json)}
    (each : ∀ field ∈ fields, ∀ n, field.2 = .int n → -(twoTo 63 : Int) ≤ n ∧ n < twoTo 64) :
    (Json.obj fields).FitsWords := by
  intro name n found
  obtain ⟨before, after, rfl, -⟩ := List.lookup_eq_some_iff.mp found
  exact each (name, .int n) (by simp) n rfl

/-! ## Columns -/

/-- A column's field is there, is no `null`, and is read as the cell. -/
def Column.ReadFrom (column : Column) (row : Json) (cell : Cell) : Prop :=
  ∃ value, row.get? column.name = some value ∧ value ≠ .null ∧ column.type.Reads value cell

/-- A column's field can be read. -/
def Column.Readable (column : Column) (row : Json) : Prop := ∃ cell, column.ReadFrom row cell

theorem Column.readable_iff {column : Column} {row : Json} :
    column.Readable row ↔ ∃ value, row.get? column.name = some value ∧
      column.type.Accepts value := by
  simp only [Readable, ReadFrom, ColumnType.Accepts, ColumnType.reads_iff]
  constructor
  · rintro ⟨cell, value, found, present, read⟩
    exact ⟨value, found, present, cell, read⟩
  · rintro ⟨value, found, present, cell, read⟩
    exact ⟨cell, value, found, present, read⟩

namespace Table

variable {table : Table} {index : Nat} {row : Json} {column : Column} {e : ValidationError}

/-- What is wrong with a column's field. -/
inductive ColumnFault (table : Table) (index : Nat) (row : Json) (column : Column) :
    ValidationError → Prop
  | missing (absent : ∀ value, row.get? column.name = some value → value = .null) :
    ColumnFault table index row column (.missingColumn table.name index column.name)
  | invalid {value : Json} (found : row.get? column.name = some value) (present : value ≠ .null)
      (unread : ∀ cell, ¬ column.type.Reads value cell) :
    ColumnFault table index row column (.invalidValue table.name index column value)

theorem validateColumn_null (found : row.get? column.name = some .null) :
    table.validateColumn index row column =
      .error (.missingColumn table.name index column.name) := by
  rw [validateColumn, found]

theorem validateColumn_present {value : Json} (found : row.get? column.name = some value)
    (present : value ≠ .null) :
    table.validateColumn index row column = match column.type.cell? value with
      | some cell => .ok cell
      | none => .error (.invalidValue table.name index column value) := by
  rw [validateColumn, found]
  cases value with
  | null => exact absurd rfl present
  | _ => rfl

theorem validateColumn_iff {cell : Cell} :
    table.validateColumn index row column = .ok cell ↔ column.ReadFrom row cell := by
  constructor
  · intro checked
    obtain ⟨value, found, read⟩ := validateColumn_read checked
    have reads := ColumnType.reads_of_cell? read
    exact ⟨value, found, reads.ne_null, reads⟩
  · rintro ⟨value, found, present, reads⟩
    rw [validateColumn_present found present, ColumnType.cell?_of_reads reads]

theorem validateColumn_fault :
    table.validateColumn index row column = .error e ↔ table.ColumnFault index row column e := by
  constructor
  · intro failed
    cases found : row.get? column.name with
    | none =>
      rw [validateColumn, found] at failed
      cases failed
      exact .missing (by simp [found])
    | some value =>
      by_cases present : value = .null
      · subst present
        rw [validateColumn_null found] at failed
        cases failed
        exact .missing (by simp [found])
      · rw [validateColumn_present found present] at failed
        cases read : column.type.cell? value with
        | some cell => simp [read] at failed
        | none =>
          simp only [read] at failed
          cases failed
          exact .invalid found present (by simp [ColumnType.reads_iff, read])
  · rintro (⟨absent⟩ | ⟨found, present, unread⟩)
    · cases found : row.get? column.name with
      | none => rw [validateColumn, found]
      | some value =>
        rw [absent value found] at found
        exact validateColumn_null found
    · simp only [ColumnType.reads_iff] at unread
      rw [validateColumn_present found present, Option.eq_none_iff_forall_ne_some.mpr unread]

/-! ## Rows -/

/-- A row is an object, and its cells are read from the fields of the columns, in their order. -/
def RowReads (table : Table) (row : Json) (cells : Row) : Prop :=
  (∃ fields, row = .obj fields) ∧
    List.Forall₂ (fun column cell => column.ReadFrom row cell) table.columns cells

/-- What is wrong with a row: it is no object, or a column's field is the first that cannot be
read. -/
inductive RowFault (table : Table) (index : Nat) (row : Json) : ValidationError → Prop
  | notAnObject (other : ∀ fields, row ≠ .obj fields) :
    RowFault table index row (.notAnObject table.name index)
  | column {fields : List (String × Json)} {before after : List Column} {column : Column}
      {e : ValidationError} (object : row = .obj fields)
      (place : table.columns = before ++ column :: after)
      (earlier : ∀ other ∈ before, other.Readable row)
      (fault : table.ColumnFault index row column e) : RowFault table index row e

theorem validateRow_iff {cells : Row} :
    table.validateRow index row = .ok cells ↔ table.RowReads row cells := by
  cases row with
  | obj fields =>
    rw [validateRow, Result.mapM_iff]
    simp only [validateColumn_iff, RowReads, Json.obj.injEq, exists_eq', true_and]
  | _ => simp [validateRow, RowReads]

theorem validateRow_fault :
    table.validateRow index row = .error e ↔ table.RowFault index row e := by
  cases row with
  | obj fields =>
    rw [validateRow, Result.mapM_error]
    simp only [validateColumn_iff, validateColumn_fault]
    constructor
    · rintro ⟨before, column, after, place, earlier, fault⟩
      exact .column rfl place earlier fault
    · rintro (⟨other⟩ | ⟨_, place, earlier, fault⟩)
      · exact absurd rfl (other fields)
      · exact ⟨_, _, _, place, earlier, fault⟩
  | _ =>
    simp only [validateRow, Except.error.injEq]
    constructor
    · rintro rfl
      exact .notAnObject (by simp)
    · rintro (⟨-⟩ | ⟨object⟩)
      · rfl
      · cases object

/-! ## Batches -/

/-- What is wrong with a batch: the fault of the first row that cannot be read. -/
def FirstFault (table : Table) (rows : List Json) (e : ValidationError) : Prop :=
  ∃ before row after, rows = before ++ row :: after ∧
    (∀ earlier ∈ before, ∃ cells, table.RowReads earlier cells) ∧
    table.RowFault before.length row e

theorem validate_iff {rows : List Json} {cells : List Row} :
    table.validate rows = .ok cells ↔ List.Forall₂ table.RowReads rows cells := by
  rw [validate, Result.mapM_iff]
  simp only [validateRow_iff]
  conv_rhs => rw [← List.zipIdx_map_fst 0 rows, List.forall₂_map_left_iff]

theorem validate_fault {rows : List Json} :
    table.validate rows = .error e ↔ table.FirstFault rows e := by
  have numbered : ∀ before : List Json,
      (∀ entry ∈ before.zipIdx, ∃ cells, table.RowReads entry.1 cells) ↔
        ∀ earlier ∈ before, ∃ cells, table.RowReads earlier cells := by
    intro before
    conv_rhs => rw [← List.zipIdx_map_fst 0 before, List.forall_mem_map]
  rw [validate, Result.mapM_error]
  simp only [validateRow_iff, validateRow_fault]
  constructor
  · rintro ⟨entries, ⟨row, index⟩, _, split, earlier, fault⟩
    obtain ⟨before, rest, rfl, rfl, behind⟩ := List.zipIdx_eq_append_iff.mp split
    obtain ⟨row, after, rfl, same, -⟩ := List.zipIdx_eq_cons_iff.mp behind.symm
    cases same
    rw [Nat.zero_add] at fault
    exact ⟨before, row, after, rfl, (numbered before).mp earlier, fault⟩
  · rintro ⟨before, row, after, rfl, earlier, fault⟩
    exact ⟨before.zipIdx, (row, before.length), after.zipIdx (before.length + 1),
      by simp [List.zipIdx_append], (numbered before).mpr earlier, fault⟩

theorem validate_readable {rows : List Json} :
    (∃ cells, table.validate rows = .ok cells) ↔ ∀ row ∈ rows, (∃ fields, row = .obj fields) ∧
      ∀ column ∈ table.columns, column.Readable row := by
  have takes : ∀ row, table.Takes row ↔ (∃ fields, row = .obj fields) ∧
      ∀ column ∈ table.columns, column.Readable row := by
    intro row
    simp only [Column.readable_iff]
    exact ⟨fun takes => ⟨takes.object, takes.columns⟩, fun ⟨object, columns⟩ => ⟨object, columns⟩⟩
  simp only [validate_takes, takes]

/-! ## What passes -/

/-- The cells of each row have the form of their columns. -/
theorem validate_ofType {rows : List Json} {cells : List Row}
    (valid : table.validate rows = .ok cells) (words : ∀ row ∈ rows, row.FitsWords) :
    ∀ row ∈ cells, List.Forall₂ (fun column cell => cell.OfType column.type) table.columns row := by
  intro row member
  obtain ⟨⟨json, index⟩, among, checked⟩ := Result.mem_mapM valid member
  have given : json ∈ rows := List.fst_mem_of_mem_zipIdx among
  refine (validateRow_iff.mp checked).2.imp ?_
  rintro column cell ⟨value, found, -, read⟩
  exact Cell.ofType_of_reads read fun n same => words json given column.name n (same ▸ found)

/-- Cells as a row for the table. -/
def rowJson (table : Table) (cells : Row) : Json :=
  .obj ((table.columns.map (·.name)).zip (cells.map Cell.toJson))

/-- Cells in the form of their columns are read from the row that they make. -/
theorem rowJson_reads (distinct : (table.columns.map (·.name)).Nodup) {cells : Row}
    (fits : List.Forall₂ (fun column cell => cell.OfType column.type) table.columns cells) :
    table.RowReads (table.rowJson cells) cells := by
  obtain ⟨complete, each⟩ := List.forall₂_iff_zip.mp fits
  refine ⟨⟨_, rfl⟩, List.forall₂_iff_zip.mpr ⟨complete, @fun column cell paired => ?_⟩⟩
  refine ⟨cell.toJson, ?_, cell.toJson_ne_null, (each paired).reads⟩
  have field : (column.name, cell.toJson) ∈
      (table.columns.map (·.name)).zip (cells.map Cell.toJson) := by
    rw [List.zip_map]
    exact List.mem_map.mpr ⟨(column, cell), paired, rfl⟩
  refine lookup_of_mem ?_ field
  rwa [List.map_fst_zip (by simpa using Nat.le_of_eq complete)]

theorem validate_rowJson (distinct : (table.columns.map (·.name)).Nodup) {cells : List Row}
    (fits : ∀ row ∈ cells,
      List.Forall₂ (fun column cell => cell.OfType column.type) table.columns row) :
    table.validate (cells.map table.rowJson) = .ok cells := by
  rw [validate_iff, List.forall₂_map_left_iff, List.forall₂_same]
  exact fun row member => rowJson_reads distinct (fits row member)

/-! ## What does not matter -/

/-- The rows are the same, or objects that agree on the fields of the columns. -/
def SameFields (table : Table) (row other : Json) : Prop :=
  row = other ∨ ∃ fields others, row = .obj fields ∧ other = .obj others ∧
    ∀ column ∈ table.columns, row.get? column.name = other.get? column.name

theorem validateRow_sameFields {other : Json} (same : table.SameFields row other) :
    table.validateRow index row = table.validateRow index other := by
  rcases same with rfl | ⟨fields, others, rfl, rfl, agree⟩
  · rfl
  · refine Result.mapM_congr (List.forall₂_same.mpr fun column member => ?_)
    rw [validateColumn, validateColumn, agree column member]

theorem validate_sameFields {rows others : List Json}
    (same : List.Forall₂ table.SameFields rows others) :
    table.validate rows = table.validate others := by
  have numbered : ∀ k, List.Forall₂
      (fun entry entry' => table.SameFields entry.1 entry'.1 ∧ entry.2 = entry'.2)
      (rows.zipIdx k) (others.zipIdx k) := by
    induction same with
    | nil => exact fun _ => .nil
    | cons here _ ih => exact fun k => .cons ⟨here, rfl⟩ (ih (k + 1))
  refine Result.mapM_congr ((numbered 0).imp ?_)
  rintro ⟨row, index⟩ ⟨other, _⟩ ⟨same, rfl⟩
  exact validateRow_sameFields same

/-! ## The whole check -/

/-- A batch passes exactly when every row is an object in which every column's field can be read,
and is refused exactly for its first fault. What passes gives cells in the form of their columns,
and passes again as the rows that its cells make. Fields that no column names do not matter. -/
theorem validate_exact (distinct : (table.columns.map (·.name)).Nodup) (rows : List Json) :
    ((∃ cells, table.validate rows = .ok cells) ↔ ∀ row ∈ rows, (∃ fields, row = .obj fields) ∧
      ∀ column ∈ table.columns, column.Readable row) ∧
    (∀ cells, table.validate rows = .ok cells ↔ List.Forall₂ table.RowReads rows cells) ∧
    (∀ e, table.validate rows = .error e ↔ table.FirstFault rows e) ∧
    ((∀ row ∈ rows, row.FitsWords) → ∀ cells, table.validate rows = .ok cells →
      (∀ row ∈ cells,
        List.Forall₂ (fun column cell => cell.OfType column.type) table.columns row) ∧
      table.validate (cells.map table.rowJson) = .ok cells) ∧
    ∀ others, List.Forall₂ table.SameFields rows others →
      table.validate others = table.validate rows := by
  refine ⟨validate_readable, fun _ => validate_iff, fun _ => validate_fault, ?_,
    fun _ same => (validate_sameFields same).symm⟩
  intro words cells valid
  have fits := validate_ofType valid words
  exact ⟨fits, validate_rowJson distinct fits⟩

end Table

/-! A table with a column of each type, two rows that it takes, and a batch with more than one
fault. -/

def quotes : Table where
  name := "quotes"
  columns := [⟨"pair", .text⟩, ⟨"volume", .numeric⟩, ⟨"height", .bigint⟩, ⟨"price", .double⟩]
  mode := .append

def quoteRows : List Json :=
  [.obj [("height", .str " -07 "), ("pair", .bool false), ("price", .int 3),
     ("volume", .str "\u3000+0_01_")],
   .obj [("extra", .null), ("height", .int 9), ("pair", .int 1), ("price", .int 0),
     ("volume", .int (-5))]]

def quoteCells : List Row :=
  [[.text "false", .numeric 1, .bigint (-7), .double (.ofInt 3)],
   [.text "1", .numeric (-5), .bigint 9, .double (.ofInt 0)]]

/-- The second row has no height, and an amount that is none; the third is no object. -/
def faultyQuotes : List Json :=
  [.obj [("height", .int 9), ("pair", .int 1), ("price", .int 0), ("volume", .int (-5))],
   .obj [("height", .null), ("pair", .str ""), ("price", .int 0), ("volume", .str "1.5")], .null]

theorem validate_exact_quotes :
    quotes.validate quoteRows = .ok quoteCells ∧
      quotes.validate (quoteCells.map quotes.rowJson) = .ok quoteCells ∧
      quotes.FirstFault faultyQuotes
        (.invalidValue "quotes" 1 ⟨"volume", .numeric⟩ (.str "1.5")) := by
  have exactly := @Table.validate_exact quotes (by decide)
  have valid : quotes.validate quoteRows = .ok quoteCells := by rfl
  have words : ∀ row ∈ quoteRows, row.FitsWords := by
    have low : -(twoTo 63 : Int) ≤ -5 := by decide
    have high : (9 : Int) < twoTo 64 := by decide
    refine List.forall_mem_cons.mpr ⟨Json.fitsWords_obj ?_, List.forall_mem_cons.mpr
      ⟨Json.fitsWords_obj ?_, by simp⟩⟩
    · simp
      omega
    · simp
      omega
  obtain ⟨-, -, faults, -, -⟩ := exactly faultyQuotes
  obtain ⟨-, -, -, passes, -⟩ := exactly quoteRows
  exact ⟨valid, (passes words quoteCells valid).2, (faults _).mp (by rfl)⟩

end PoolIndexer
