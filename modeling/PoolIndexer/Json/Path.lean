import PoolIndexer.Json
import PoolIndexer.Text.Numeral

/-!
Places in JSON values, written as a name followed by `.name` and `[index]` steps.

A change at a place makes what is missing on the way there, and puts aside what is in its way:
names lead through objects and indices through arrays. An index below zero counts from the end.
-/
namespace PoolIndexer.Json

inductive PathStep
  | field (name : String)
  | item (index : Int)
  deriving DecidableEq, Repr

/-! ## The text of a path -/

/-- A character that names on a path are made of. -/
def isNameChar (c : Char) : Bool := c.isAlphanum || c == '_' || c == '-'

/-- A name, and what follows it. -/
def pathName? (s : List Char) : Option (PathStep × List Char) :=
  let name := s.takeWhile isNameChar
  if name.isEmpty then none else some (.field (String.ofList name), s.dropWhile isNameChar)

/-- An index, perhaps with a minus sign, and with blanks around it. -/
def pathIndex? (s : List Char) : Option PathStep :=
  let isSpace := fun (c : Char) => c == ' ' || c == '\t'
  let number := ((s.dropWhile isSpace).reverse.dropWhile isSpace).reverse
  if number.head? = some '+' then none else (Numeral.int64? number).map .item

/-- The steps that follow a name. -/
def pathSteps? (s : List Char) : Option (List PathStep) :=
  match s with
  | [] => some []
  | '.' :: r =>
    match pathName? r with
    | some (step, _) => (pathSteps? (r.dropWhile isNameChar)).map (step :: ·)
    | none => none
  | '[' :: r =>
    match pathIndex? (r.takeWhile (· != ']')), r.dropWhile (· != ']') with
    | some step, _ :: _ => (pathSteps? ((r.dropWhile (· != ']')).drop 1)).map (step :: ·)
    | _, _ => none
  | _ => none
termination_by s.length
decreasing_by
  · have := (List.dropWhile_sublist isNameChar (l := r)).length_le
    simp only [List.length_cons]; omega
  · have := (List.dropWhile_sublist (· != ']') (l := r)).length_le
    simp only [List.length_cons, List.length_drop]; omega

/-- The path that a text writes. -/
def path? (s : String) : Option (List PathStep) := do
  let (root, rest) ← pathName? s.toList
  return root :: (← pathSteps? rest)

/-! ## Changes at a place -/

/-- The fields of an object; nothing else has any. -/
def fields : Json → List (String × Json)
  | .obj fields => fields
  | _ => []

/-- The items of an array; nothing else has any. -/
def items : Json → List Json
  | .arr items => items
  | _ => []

/-- Items with as many `null`s as it takes for an index to be one of theirs, and its place. -/
def stretched (index : Int) (items : List Json) : List Json × Nat :=
  if 0 ≤ index then (items ++ List.replicate (index.toNat + 1 - items.length) .null, index.toNat)
  else
    let place := index + items.length
    (List.replicate (-place).toNat .null ++ items, place.toNat)

/-- Changes a field; one that is missing is `null` before the change. -/
def modifyField (name : String) (change : Json → Json) (j : Json) : Json :=
  .obj (Keyed.upsert name (fun present => change (present.getD .null)) j.fields)

/-- Changes the value at a place. -/
def modifyAt (change : Json → Json) : List PathStep → Json → Json
  | [], j => change j
  | .field name :: rest, j => j.modifyField name (modifyAt change rest)
  | .item index :: rest, j =>
    let (items, place) := stretched index j.items
    .arr (items.modify place (modifyAt change rest))

mutual

/-- A value in place of another one: the fields of an object join those that are there. -/
def merged (value present : Json) : Json :=
  match value with
  | .obj fields => mergeFields fields (if present.isNull then .obj [] else present)
  | value => value

/-- Sets fields one by one. -/
def mergeFields : List (String × Json) → Json → Json
  | [], j => j
  | (name, value) :: rest, j =>
    mergeFields rest (j.modifyField name fun present => merged value present)

end

/-- The object of fields whose names are paths; a name that writes no path stands for itself. -/
def ofPaths (fields : List (String × Json)) : Json :=
  fields.foldl (fun j (name, value) =>
    j.modifyAt (merged value) ((path? name).getD [.field name])) (.obj [])

end PoolIndexer.Json
