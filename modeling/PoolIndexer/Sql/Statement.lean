import PoolIndexer.Runs
import PoolIndexer.Table

/-!
SQL statements with numbered parameters, and the statements that write the rows of a table.

Rows are written in statements of many rows each. Within a statement the parameters stand in the
order in which their numbers occur in its text: row by row, and in column order within a row.
-/
namespace PoolIndexer.Sql

/-- What a parameter is bound to. -/
inductive Parameter
  | text (s : String)
  | int (n : Int)
  | real (x : Binary64)
  /-- The moment at which the statement is made. -/
  | now
  deriving DecidableEq, Repr

/-- A text that refers to its parameters as `$1`, `$2` and so on. -/
structure Statement where
  text : String
  parameters : List Parameter := []
  deriving DecidableEq, Repr

/-- Items divided by commas. -/
def commaSeparated (items : List String) : String := String.intercalate ", " items

/-- The place of the parameter numbered `n`. Integers of any size are bound as text, and it is the
server that makes numbers of them. -/
def placeholder (type : ColumnType) (n : Nat) : String :=
  match type with
  | .numeric => "$" ++ Numeral.text n ++ "::TEXT::NUMERIC"
  | _ => "$" ++ Numeral.text n

/-- The parameter that a checked value is bound as. -/
def Parameter.ofCell : Cell → Parameter
  | .text s => .text s
  | .numeric n => .text (Numeral.text n)
  | .bigint n => .int n
  | .double x => .real x

/-- The placeholders of a row whose first parameter is numbered `start`. -/
def rowPlaceholders (columns : List Column) (start : Nat) : List String :=
  columns.zipIdx.map fun (column, offset) => placeholder column.type (start + offset)

/-- The placeholders of several rows, in brackets row by row. -/
def valueGroups (columns : List Column) (rows : Nat) : List String :=
  (List.range rows).map fun i =>
    "(" ++ commaSeparated (rowPlaceholders columns (i * columns.length + 1)) ++ ")"

/-- What is said about keys that are stored already. -/
def conflictClause (table : Table) : String :=
  match table.mode with
  | .append => ""
  | .ignore key => "ON CONFLICT (" ++ key ++ ") DO NOTHING"
  | .replace key =>
    let updates := (table.columns.filter (·.name != key)).map fun column =>
      column.name ++ " = EXCLUDED." ++ column.name
    "ON CONFLICT (" ++ key ++ ") DO UPDATE SET " ++ commaSeparated updates

/-- The text that inserts a number of rows. -/
def insertText (table : Table) (rows : Nat) : String :=
  "INSERT INTO " ++ table.name ++ " (" ++ commaSeparated (table.columns.map (·.name)) ++ ") VALUES "
    ++ commaSeparated (valueGroups table.columns rows) ++ " " ++ conflictClause table

/-- The statement that inserts checked rows. -/
def insertStatement (table : Table) (rows : List Row) : Statement where
  text := insertText table rows.length
  parameters := rows.flatten.map Parameter.ofCell

/-- The parameters that one statement may have. -/
def maxParameters : Nat := 65535

/-- The rows that one statement holds at most. -/
def rowsPerStatement (table : Table) : Nat := min (maxParameters / max table.columns.length 1) 1000

/-- The statements that insert checked rows, in order. -/
def insertStatements (table : Table) (rows : List Row) : List Statement :=
  (runs (rowsPerStatement table) rows).map (insertStatement table)

/-- The signed number with the same 64 bits, as which heights are stored. -/
def storedHeight (height : Nat) : Int := (height : Int).bmod (twoTo 64)

/-- The height that a stored number stands for. -/
def heightOf (stored : Int) : Nat := (stored % twoTo 64).toNat

/-- Raises the stored checkpoint to a height; a higher one stays. -/
def raiseCheckpoint (height : Nat) : Statement where
  text := "INSERT INTO height_snapshot (id, current_ind, updated_at) VALUES (1, $1, $2)
    ON CONFLICT (id) DO UPDATE SET current_ind = EXCLUDED.current_ind,
    updated_at = EXCLUDED.updated_at
    WHERE height_snapshot.current_ind < EXCLUDED.current_ind"
  parameters := [.int (storedHeight height), .now]

end PoolIndexer.Sql
