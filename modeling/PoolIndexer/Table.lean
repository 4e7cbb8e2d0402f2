import PoolIndexer.Json.Printer
import PoolIndexer.Json.Decode
import PoolIndexer.Binary64.Reader

/-!
Table layouts, and the check that every batch passes before any of it is written.

A batch is accepted as a whole or refused for its first fault, in the order of its rows and of the
table's columns.
-/
namespace PoolIndexer

inductive ColumnType
  | text
  /-- An integer of any size. -/
  | numeric
  /-- A signed 64-bit integer. -/
  | bigint
  /-- A finite binary64 number. -/
  | double
  deriving DecidableEq, Repr

structure Column where
  name : String
  type : ColumnType
  deriving DecidableEq, Repr

/-- What a write does to a row whose key is already stored. -/
inductive WriteMode
  /-- Rows have no key and are all kept. -/
  | append
  /-- The stored row stays. -/
  | ignore (key : String)
  /-- The new row takes the place of the stored one. -/
  | replace (key : String)
  deriving DecidableEq, Repr

structure Table where
  name : String
  columns : List Column
  mode : WriteMode
  deriving DecidableEq, Repr

/-- A checked value, ready to be stored. -/
inductive Cell
  | text (s : String)
  | numeric (n : Int)
  | bigint (n : Int)
  | double (x : Binary64)
  deriving DecidableEq, Repr

abbrev Row := List Cell

/-- Why a batch is refused; rows are counted from zero. -/
inductive ValidationError
  | notAnObject (table : String) (row : Nat)
  | missingColumn (table : String) (row : Nat) (column : String)
  | invalidValue (table : String) (row : Nat) (column : Column) (value : Json)

def ColumnType.name : ColumnType → String
  | .text => "Text"
  | .numeric => "Numeric"
  | .bigint => "BigInt"
  | .double => "Double"

def ValidationError.message : ValidationError → String
  | .notAnObject table row => table ++ ": row " ++ Numeral.text row ++ " is not a JSON object"
  | .missingColumn table row column =>
    table ++ ": row " ++ Numeral.text row ++ " is missing column `" ++ column ++ "`"
  | .invalidValue table row column value =>
    table ++ ": row " ++ Numeral.text row ++ " column `" ++ column.name ++ "` expects "
      ++ column.type.name ++ ", got " ++ value.compact

namespace WriteMode

def key? : WriteMode → Option String
  | .append => none
  | .ignore key => some key
  | .replace key => some key

end WriteMode

namespace ColumnType

/-- The cell of a value, if the value can be read as the type. Numbers may come as text with blanks
around it, and text as a number or a truth value. -/
def cell? : ColumnType → Json → Option Cell
  | .text, .str s => some (.text s)
  | .text, .bool b => some (.text (Json.bool b).compact)
  | .text, .int n => some (.text (Json.int n).compact)
  | .text, .real x => some (.text (Json.real x).compact)
  | .numeric, .str s => (Numeral.integer? (trim s.toList)).map .numeric
  | .numeric, .int n => some (.numeric n)
  | .bigint, .int n => if n < twoTo 63 then some (.bigint n) else none
  | .bigint, .str s => (Numeral.int64? (trim s.toList)).map .bigint
  | .double, .int n => some (.double (.ofInt n))
  | .double, .real x => if x.isFinite then some (.double x) else none
  | .double, .str s =>
    match Binary64.ofText? (trim s.toList) with
    | some x => if x.isFinite then some (.double x) else none
    | none => none
  | _, _ => none

end ColumnType

namespace Table

/-- The cell of one column in a row. A `null` counts as missing. -/
def validateColumn (table : Table) (index : Nat) (row : Json) (column : Column) :
    Except ValidationError Cell :=
  match row.get? column.name with
  | none => .error (.missingColumn table.name index column.name)
  | some .null => .error (.missingColumn table.name index column.name)
  | some value =>
    match column.type.cell? value with
    | some cell => .ok cell
    | none => .error (.invalidValue table.name index column value)

def validateRow (table : Table) (index : Nat) (row : Json) : Except ValidationError Row :=
  match row with
  | .obj _ => table.columns.mapM (table.validateColumn index row)
  | _ => .error (.notAnObject table.name index)

/-- The cells of every row in column order, or the first fault. -/
def validate (table : Table) (rows : List Json) : Except ValidationError (List Row) :=
  rows.zipIdx.mapM fun (row, index) => table.validateRow index row

def columnIndex? (table : Table) (name : String) : Option Nat :=
  table.columns.findIdx? (·.name == name)

end Table

/-- A kind of row: its table, and its passage to JSON and back. Field names are column names. -/
class Record (α : Type) where
  table : Table
  toJson : α → Json
  ofDocument? : Document → Option α

namespace Record

variable {α : Type} [Record α]

/-- The checked cells of records. -/
def rows (records : List α) : Except ValidationError (List Row) :=
  (table α).validate (records.map toJson)

/-- A record read from a stored row. -/
def ofJson? (row : Json) : Option α := ofDocument? row.toDocument

end Record

/-- A number as a JSON value; what is not finite has none. -/
def realJson (x : Binary64) : Json := if x.isFinite then .real x else .null

end PoolIndexer
