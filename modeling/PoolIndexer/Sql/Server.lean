import PoolIndexer.Sql.Statement
import PoolIndexer.Store.Error

/-!
What a client says to an SQL server, and the rows it gets back.
-/
namespace PoolIndexer.Sql

inductive Command
  | start
  | commit
  | rollback
  | run (statement : Statement)
  deriving DecidableEq, Repr

inductive ValueType
  | text
  | int
  | real
  deriving DecidableEq, Repr

inductive Value
  | null
  | text (s : String)
  | int (n : Int)
  | real (x : Binary64)
  deriving DecidableEq, Repr

/-- The rows that a statement gives, under named and typed columns. -/
structure ResultSet where
  columns : List (String × ValueType) := []
  rows : List (List Value) := []
  deriving DecidableEq, Repr, Inhabited

/-- A server at the other end of a connection, with what it keeps in a state `σ`. -/
structure Server (σ : Type) where
  /-- Takes a connection, and tells whether there is one. -/
  connect : σ → Bool × σ
  /-- Carries out a command; without a result it failed. -/
  send : Command → σ → Option ResultSet × σ
  /-- Hands over a command whose outcome nobody waits for. -/
  tell : Command → σ → σ

/-- A row with the columns it stands under. -/
structure ResultRow where
  columns : List (String × ValueType)
  values : List Value
  deriving DecidableEq, Repr

def ResultSet.records (r : ResultSet) : List ResultRow := r.rows.map (⟨r.columns, ·⟩)

/-- A text with its ASCII letters in lower case. -/
def lower (s : String) : List Char := s.toList.map Char.toLower

namespace ResultRow

/-- The place of a column: the first of exactly that name, or else the first whose name differs in
the case of ASCII letters alone. -/
def column? (r : ResultRow) (name : String) : Option Nat :=
  match r.columns.findIdx? (·.1 == name) with
  | some i => some i
  | none => r.columns.findIdx? (lower ·.1 == lower name)

/-- The value of a column of a type. -/
def value? (r : ResultRow) (type : ValueType) (name : String) : Option Value :=
  match r.column? name with
  | some i =>
    if (r.columns[i]?).map (·.2) = some type then r.values[i]? else none
  | none => none

def text (r : ResultRow) (name : String) : Except StorageError String :=
  match r.value? .text name with
  | some (.text s) => .ok s
  | _ => .error .statement

def int (r : ResultRow) (name : String) : Except StorageError Int :=
  match r.value? .int name with
  | some (.int n) => .ok n
  | _ => .error .statement

def real (r : ResultRow) (name : String) : Except StorageError Binary64 :=
  match r.value? .real name with
  | some (.real x) => .ok x
  | _ => .error .statement

def height (r : ResultRow) (name : String) : Except StorageError Nat := (r.int name).map heightOf

/-- A height or a count that no store can do without. -/
def vital (r : ResultRow) (name : String) : Except StorageError Nat :=
  (r.height name).mapError fun _ => .unusable

/-- An integer of any size, which comes as text; what follows a point is dropped. -/
def numeric (r : ResultRow) (name : String) : Except StorageError Int := do
  let text ← r.text name
  match Numeral.integer? (text.toList.takeWhile (· != '.')) with
  | some n => return n
  | none => throw (.invalidNumeric text name)

end ResultRow
end PoolIndexer.Sql
