import PoolIndexer.Proofs.Sql.Committing
import PoolIndexer.Proofs.Sql.Placeholders
import PoolIndexer.Proofs.Validation

/-! What the placeholders of insertions are bound to. The rows are cut into groups of which each fits
a statement; its placeholders are numbered as its parameters are, so every cell stands in its own
row and column, and in the form that the type of the column asks for. -/
namespace PoolIndexer.Sql

/-! ## Kinds of parameters -/

/-- The form in which values of a type are bound. -/
def Parameter.Fits : ColumnType → Parameter → Prop
  | .text, .text _ => True
  | .numeric, .text s => Numeral.Canonical s.toList
  | .bigint, .int n => -(twoTo 63 : Int) ≤ n ∧ n < twoTo 63
  | .double, .real x => x.isFinite = true
  | _, _ => False

/-- A cell in the form of its column is bound in the form of its type. -/
theorem fits_of_ofType {type : ColumnType} {cell : Cell} (fits : cell.OfType type) :
    Parameter.Fits type (.ofCell cell) := by
  cases type <;> cases cell <;> first | exact fits | exact fits.elim

theorem validate_fits {table : Table} {raw : List Json} {rows : List Row}
    (valid : table.validate raw = .ok rows) (words : ∀ json ∈ raw, json.FitsWords) :
    ∀ row ∈ rows, ∀ entry ∈ table.columns.zip row,
      Parameter.Fits entry.1.type (.ofCell entry.2) := by
  intro row member entry paired
  exact fits_of_ofType (List.forall₂_zip (Table.validate_ofType valid words row member) paired)

/-! ## Groups of rows -/

theorem rowHolders_numbers (columns : List Column) (start : Nat) :
    (rowHolders columns start).map (·.number) = List.range' start columns.length := by
  have numbers : (rowHolders columns start).map (·.number) =
      (columns.zipIdx.map (·.2)).map (start + ·) := by
    rw [rowHolders, List.map_map, List.map_map]
    rfl
  rw [numbers, List.zipIdx_map_snd, List.map_add_range', Nat.add_zero]

/-- Over all rows the placeholders are numbered through. -/
theorem valuesText_numbers (columns : List Column) (rows : Nat) :
    (placeholders (valuesText columns rows)).map (·.number) =
      List.range' 1 (rows * columns.length) := by
  rw [(shows_valuesText columns rows).whole, List.map_flatMap]
  simp only [rowHolders_numbers]
  induction rows with
  | zero => simp
  | succ rows ih =>
    rw [List.range_succ, List.flatMap_append, ih, List.flatMap_singleton, Nat.succ_mul,
      Nat.add_comm (rows * columns.length) 1]
    exact List.range'_append_1

/-- A cell among all cells is found by its row and column. -/
theorem flatten_cell {columns : Nat} {group : List Row} (positive : 0 < columns)
    (full : ∀ row ∈ group, row.length = columns) {i j : Nat} (within : j < columns) :
    group.flatten[i * columns + j]? = (group[i]?).bind (·[j]?) := by
  rw [← runs_place group.flatten i within, runs_flatten positive full]

/-- The parameter of every placeholder, row by row as they are read. -/
def boundRows (columns : List Column) (statement : Statement) (rows : Nat) :
    List (List (Bool × Option Parameter)) :=
  (bracketed (valuesText columns rows)).map fun row =>
    (placeholders row).map fun p => (p.cast, statement.parameters[p.number - 1]?)

theorem boundRows_eq {table : Table} {group : List Row} (positive : 0 < table.columns.length)
    (full : ∀ row ∈ group, row.length = table.columns.length) :
    boundRows table.columns (insertStatement table group) group.length =
      group.map fun row => (table.columns.zip row).map fun (column, cell) =>
        (decide (column.type = .numeric), some (.ofCell cell)) := by
  rw [boundRows, bracketed_valuesText, List.map_map]
  refine List.ext_getElem (by simp) fun i before _ => ?_
  have here : i < group.length := by simpa using before
  have row := full group[i] (List.getElem_mem here)
  simp only [List.getElem_map, List.getElem_range, Function.comp_apply,
    (shows_rowText table.columns _).whole, rowHolders, List.map_map]
  refine List.ext_getElem (by simp [row]) fun j inner _ => ?_
  have within : j < table.columns.length := by simpa using inner
  have inRow : j < group[i].length := by rwa [row]
  have cell : group.flatten[i * table.columns.length + j]? = some group[i][j] := by
    rw [flatten_cell positive full within, List.getElem?_eq_getElem here, Option.bind_some,
      List.getElem?_eq_getElem inRow]
  have number : i * table.columns.length + 1 + (0 + j) - 1 = i * table.columns.length + j := by
    omega
  simp only [List.getElem_map, List.getElem_zipIdx, List.getElem_zip, Function.comp_apply,
    insertStatement, List.getElem?_map, number, cell, Option.map_some]

/-! ## Statements -/

/-- What stands before the rows. -/
def openingText (table : Table) : String :=
  "INSERT INTO " ++ table.name ++ " (" ++ commaSeparated (table.columns.map (·.name)) ++ ") VALUES "

/-- The names of a table and its columns could not be taken for placeholders. -/
structure PlainNames (table : Table) : Prop where
  name : '$' ∉ table.name.toList
  columns : ∀ column ∈ table.columns, '$' ∉ column.name.toList
  key : ∀ key, table.mode.key? = some key → '$' ∉ key.toList

/-- How a statement inserts a group of rows: between text that is made of names alone, its
placeholders are numbered as its parameters are, and each is bound to the cell in its place. -/
structure Binds (table : Table) (group : List Row) (statement : Statement) : Prop where
  text : statement.text.toList = (openingText table).toList ++
    (valuesText table.columns group.length ++ ' ' :: (conflictClause table).toList)
  numbers : (placeholders (valuesText table.columns group.length)).map (·.number) =
    List.range' 1 (group.length * table.columns.length)
  parameters : statement.parameters.length = group.length * table.columns.length
  most : group.length * table.columns.length ≤ maxParameters
  cells : boundRows table.columns statement group.length =
    group.map fun row => (table.columns.zip row).map fun (column, cell) =>
      (decide (column.type = .numeric), some (.ofCell cell))
  alone : PlainNames table → placeholders statement.text.toList =
    placeholders (valuesText table.columns group.length)

theorem insertText_toList (table : Table) (rows : Nat) :
    (insertText table rows).toList = (openingText table).toList ++
      (valuesText table.columns rows ++ ' ' :: (conflictClause table).toList) := by
  have blank : " ".toList = [' '] := rfl
  have split : insertText table rows = openingText table ++
      commaSeparated (valueGroups table.columns rows) ++ " " ++ conflictClause table := rfl
  rw [split, String.toList_append, String.toList_append, String.toList_append, blank,
    List.append_assoc, List.append_assoc]
  rfl

theorem commaSeparated_plain {items : List String} (plain : ∀ item ∈ items, '$' ∉ item.toList) :
    '$' ∉ (commaSeparated items).toList := by
  rw [commaSeparated_toList]
  intro member
  rcases mem_intercalate member with between | ⟨s, among, inside⟩
  · exact absurd between (by decide)
  · obtain ⟨item, listed, rfl⟩ := List.mem_map.mp among
    exact plain item listed inside

theorem openingText_plain {table : Table} (plain : PlainNames table) :
    '$' ∉ (openingText table).toList := by
  have names : '$' ∉ (commaSeparated (table.columns.map (·.name))).toList :=
    commaSeparated_plain (List.forall_mem_map.mpr plain.columns)
  unfold openingText
  simp only [String.toList_append, List.mem_append, not_or]
  exact ⟨⟨⟨⟨by decide, plain.name⟩, by decide⟩, names⟩, by decide⟩

theorem conflictClause_plain {table : Table} (plain : PlainNames table) :
    '$' ∉ (conflictClause table).toList := by
  unfold conflictClause
  cases mode : table.mode with
  | append => simp
  | ignore key =>
    have named := plain.key key (by rw [mode]; rfl)
    simp only [String.toList_append, List.mem_append, not_or]
    exact ⟨⟨by decide, named⟩, by decide⟩
  | replace key =>
    have named := plain.key key (by rw [mode]; rfl)
    have updates : ∀ column ∈ table.columns.filter (·.name != key),
        '$' ∉ (column.name ++ " = EXCLUDED." ++ column.name).toList := by
      intro column member
      have own := plain.columns column (List.mem_filter.mp member).1
      simp only [String.toList_append, List.mem_append, not_or]
      exact ⟨⟨own, by decide⟩, own⟩
    simp only [String.toList_append, List.mem_append, not_or]
    exact ⟨⟨⟨by decide, named⟩, by decide⟩, commaSeparated_plain (List.forall_mem_map.mpr updates)⟩

theorem placeholders_insertText {table : Table} (plain : PlainNames table) (rows : Nat) :
    placeholders (insertText table rows).toList =
      placeholders (valuesText table.columns rows) := by
  have rest : '$' ∉ ' ' :: (conflictClause table).toList :=
    List.not_mem_cons_of_ne_of_not_mem (by decide) (conflictClause_plain plain)
  have shown := (shows_valuesText table.columns rows).append_of_plain (by simp [Ends]) (by simp) rest
  rw [insertText_toList, placeholders_plain (openingText_plain plain), shown.whole,
    (shows_valuesText table.columns rows).whole]

theorem length_flatten_full {columns : Nat} {group : List Row}
    (full : ∀ row ∈ group, row.length = columns) : group.flatten.length = group.length * columns := by
  induction group with
  | nil => simp
  | cons row rest ih =>
    rw [List.flatten_cons, List.length_append, full row List.mem_cons_self,
      ih fun other member => full other (List.mem_cons_of_mem row member), List.length_cons,
      Nat.succ_mul, Nat.add_comm]

theorem insertStatement_binds {table : Table} {group : List Row}
    (positive : 0 < table.columns.length)
    (full : ∀ row ∈ group, row.length = table.columns.length)
    (few : group.length ≤ rowsPerStatement table) :
    Binds table group (insertStatement table group) where
  text := insertText_toList table group.length
  numbers := valuesText_numbers table.columns group.length
  parameters := by rw [insertStatement, List.length_map, length_flatten_full full]
  most := by
    have share : group.length ≤ maxParameters / table.columns.length := by
      unfold rowsPerStatement at few
      rw [Nat.max_eq_left positive] at few
      exact Nat.le_trans few (Nat.min_le_left _ _)
    exact (Nat.le_div_iff_mul_le positive).mp share
  cells := boundRows_eq positive full
  alone plain := placeholders_insertText plain group.length

/-- The rows of a checked batch are inserted in groups, in order, whatever names the table has. -/
theorem insertStatements_bind {table : Table} (positive : 1 ≤ table.columns.length)
    (most : table.columns.length ≤ maxParameters) {raw : List Json} {rows : List Row}
    (valid : table.validate raw = .ok rows) :
    ∃ groups : List (List Row), groups.flatten = rows ∧
      (∀ group ∈ groups, group ≠ [] ∧ Binds table group (insertStatement table group)) ∧
      (∀ {σ : Type} (server : Server σ) (s : σ), ∃ result s' messages,
        server.recorded.executeAll (insertStatements table rows) (s, []) = (result, s', messages) ∧
        Executed (groups.map (insertStatement table)) messages result) ∧
      ((∀ json ∈ raw, json.FitsWords) → ∀ row ∈ rows, ∀ entry ∈ table.columns.zip row,
        Parameter.Fits entry.1.type (.ofCell entry.2)) := by
  have size : 0 < rowsPerStatement table := by
    unfold rowsPerStatement
    rw [Nat.max_eq_left positive]
    exact Nat.lt_min.mpr ⟨Nat.div_pos most positive, by decide⟩
  have whole := flatten_runs (rowsPerStatement table) rows
  refine ⟨runs (rowsPerStatement table) rows, whole, ?_, ?_, validate_fits valid⟩
  · intro group member
    obtain ⟨some, few⟩ := length_of_mem_runs size member
    refine ⟨List.ne_nil_of_length_pos some, insertStatement_binds positive ?_ few⟩
    intro row among
    refine Table.length_of_mem_validate valid ?_
    rw [← whole]
    exact List.mem_flatten.mpr ⟨group, member, among⟩
  · intro σ server s
    rcases executed : server.executeAll (insertStatements table rows) s with ⟨result, s'⟩
    obtain ⟨messages, done, recorded⟩ := server.recorded_executeAll executed []
    exact ⟨result, s', messages, recorded, done⟩

/-! A table with a column of each type, and two rows for it. -/

def ledger : Table where
  name := "ledger"
  columns := [⟨"owner", .text⟩, ⟨"amount", .numeric⟩, ⟨"height", .bigint⟩, ⟨"rate", .double⟩]
  mode := .ignore "owner"

def ledgerRaw : List Json :=
  [.obj [("owner", .str "$9"), ("amount", .str " +1_000 "), ("height", .int 7), ("rate", .int 2)],
   .obj [("owner", .bool true), ("amount", .int (-3)), ("height", .str "8"), ("rate", .int 0)]]

def ledgerRows : List Row :=
  [[.text "$9", .numeric 1000, .bigint 7, .double (.ofInt 2)],
   [.text "true", .numeric (-3), .bigint 8, .double (.ofInt 0)]]

theorem ledger_valid : ledger.validate ledgerRaw = .ok ledgerRows := by rfl

theorem ledger_words : ∀ json ∈ ledgerRaw, json.FitsWords := by
  have low : -(twoTo 63 : Int) ≤ -3 := by decide
  have high : (7 : Int) < twoTo 64 := by decide
  refine List.forall_mem_cons.mpr ⟨Json.fitsWords_obj ?_, List.forall_mem_cons.mpr
    ⟨Json.fitsWords_obj ?_, by simp⟩⟩
  · simp
    omega
  · simp
    omega

/-- The owner that looks like a placeholder is bound like any other text. -/
theorem ledger_bound :
    (∃ groups : List (List Row), groups.flatten = ledgerRows ∧
      ∀ group ∈ groups, group ≠ [] ∧ Binds ledger group (insertStatement ledger group)) ∧
    ∀ row ∈ ledgerRows, ∀ entry ∈ ledger.columns.zip row,
      Parameter.Fits entry.1.type (.ofCell entry.2) := by
  obtain ⟨groups, whole, bound, -, fits⟩ :=
    insertStatements_bind (by decide) (by decide) ledger_valid
  exact ⟨⟨groups, whole, bound⟩, fits ledger_words⟩

end PoolIndexer.Sql
