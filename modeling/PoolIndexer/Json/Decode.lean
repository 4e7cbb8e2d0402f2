import PoolIndexer.Json.Document
import PoolIndexer.Text.Blank
import PoolIndexer.Text.Numeral

/-!
Reading typed values out of documents.

A structure is an object whose known fields occur at most once, or an array of its fields in
order. A choice is an object with exactly one field, whose name is the alternative. Unknown fields
are never looked at.
-/
namespace PoolIndexer.Document

def text? : Document → Option String
  | .str s => s
  | _ => none

def bool? : Document → Option Bool
  | .bool b => some b
  | _ => none

/-- A whole number between two bounds. -/
def bounded? (low high : Int) : Document → Option Int
  | .int n => if low ≤ n ∧ n ≤ high then some n else none
  | _ => none

/-- A number of an unsigned word of `width` bits. -/
def word? (width : Nat) (d : Document) : Option Nat :=
  (bounded? 0 (twoTo width - 1) d).map Int.toNat

def int64? : Document → Option Int := bounded? (-twoTo 63) (twoTo 63 - 1)

def real? : Document → Option Binary64
  | .int n => some (.ofInt n)
  | .real x => some x
  | _ => none

/-- An amount: a whole number, or an integer numeral as text that may have blanks at its ends. -/
def amount? : Document → Option Int
  | .int n => some n
  | .str (some s) => Numeral.integer? (trim s.toList)
  | _ => none

def items? : Document → Option (List Document)
  | .arr items => some items
  | _ => none

/-- A list, read item by item. -/
def list? {α : Type} (item? : Document → Option α) (d : Document) : Option (List α) :=
  d.items?.bind fun items => items.mapM item?

/-- A value that `null` stands for the absence of. -/
def nullable? {α : Type} (value? : Document → Option α) : Document → Option (Option α)
  | .null => some none
  | d => (value? d).map some

/-- The one value of a field, if it occurs; `none` if it occurs twice. -/
def sole? (fields : List (String × Document)) (name : String) : Option (Option Document) :=
  match fields.filter (·.1 == name) with
  | [] => some none
  | [(_, d)] => some (some d)
  | _ => none

/-- The named fields of an object in the order of `names`. -/
def named? (names : List String) : Document → Option (List (Option Document))
  | .obj fields => do
    let fields ← fields.mapM fun (name, d) => name.map fun name => (name, d)
    names.mapM (sole? fields)
  | _ => none

/-- The fields of a structure, which may also be given as an array of them in order; what such an
array leaves out at its end is missing. -/
def fields? (names : List String) : Document → Option (List (Option Document))
  | .arr items =>
    if items.length ≤ names.length then
      some (items.map some ++ List.replicate (names.length - items.length) none)
    else none
  | d => named? names d

/-- The alternative of a choice with what it holds. -/
def choice? : Document → Option (String × Document)
  | .obj [(some name, d)] => some (name, d)
  | _ => none

/-- Where a document comes from: the fields of an alternative may stand in an array only in a text
that is read directly, not in a value. -/
inductive Origin
  | text
  | value
  deriving DecidableEq, Repr

/-- The fields of an alternative. -/
def Origin.fields? (origin : Origin) (names : List String) (d : Document) :
    Option (List (Option Document)) :=
  match origin with
  | .text => d.fields? names
  | .value => d.named? names

end PoolIndexer.Document

namespace PoolIndexer

/-- A field that may be missing, with the value it then has. -/
def orDefault {α : Type} (value? : Document → Option α) (default : α) :
    Option Document → Option α
  | none => some default
  | some d => value? d

end PoolIndexer
