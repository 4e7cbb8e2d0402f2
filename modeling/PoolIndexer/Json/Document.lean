import PoolIndexer.Json

/-!
JSON documents as written, before anything is made of them.

A document keeps its fields in order, repeated names included, and admits what only matters once
it is used: a string with escapes or bytes that are no character, and a number beyond binary64. A
reader that skips a part never looks at these.
-/
namespace PoolIndexer

/-- A JSON text taken apart. -/
inductive Document
  | null
  | bool (b : Bool)
  | int (n : Int)
  | real (x : Binary64)
  /-- A number too great for binary64. -/
  | tooGreat
  /-- A string, or `none` if part of it is no character. -/
  | str (s : Option String)
  | arr (items : List Document)
  | obj (fields : List (Option String × Document))
  deriving Repr, Inhabited

mutual

/-- The value of a document: every string and number must be readable, containers may nest
`depth` levels, and of repeated fields the last one counts. -/
def Json.ofDocument? (depth : Nat) : Document → Option Json
  | .null => some .null
  | .bool b => some (.bool b)
  | .int n => some (.int n)
  | .real x => some (.real x)
  | .tooGreat => none
  | .str s => s.map .str
  | .arr items =>
    match depth with
    | 0 => none
    | depth + 1 => (Json.ofItems? depth items).map .arr
  | .obj fields =>
    match depth with
    | 0 => none
    | depth + 1 => (Json.ofNamed? depth fields).map Json.ofFields

def Json.ofItems? (depth : Nat) : List Document → Option (List Json)
  | [] => some []
  | d :: rest => do
    let j ← Json.ofDocument? depth d
    let js ← Json.ofItems? depth rest
    return j :: js

def Json.ofNamed? (depth : Nat) : List (Option String × Document) → Option (List (String × Json))
  | [] => some []
  | (name, d) :: rest => do
    let name ← name
    let j ← Json.ofDocument? depth d
    let js ← Json.ofNamed? depth rest
    return (name, j) :: js

end

/-- The levels of arrays and objects a value may have. -/
def Json.maxDepth : Nat := 127

mutual

/-- A value as a document. -/
def Json.toDocument : Json → Document
  | .null => .null
  | .bool b => .bool b
  | .int n => .int n
  | .real x => .real x
  | .str s => .str (some s)
  | .arr items => .arr (Json.toDocuments items)
  | .obj fields => .obj (Json.toNamedDocuments fields)

def Json.toDocuments : List Json → List Document
  | [] => []
  | j :: rest => j.toDocument :: Json.toDocuments rest

def Json.toNamedDocuments : List (String × Json) → List (Option String × Document)
  | [] => []
  | (name, j) :: rest => (some name, j.toDocument) :: Json.toNamedDocuments rest

end

end PoolIndexer
