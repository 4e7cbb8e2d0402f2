import PoolIndexer.Binary64
import PoolIndexer.Keyed

/-!
JSON values. An object holds its fields in the order in which they are written; one that was read
has them sorted by name, each name once.
-/
namespace PoolIndexer

/-- A JSON value. Whole numbers that fit 64 bits are integers, all others binary64. -/
inductive Json
  | null
  | bool (b : Bool)
  | int (n : Int)
  | real (x : Binary64)
  | str (s : String)
  | arr (items : List Json)
  | obj (fields : List (String × Json))
  deriving BEq, Repr, Inhabited

namespace Json

/-- The object of a list of fields, of which the last wins among those of one name. -/
def ofFields (fields : List (String × Json)) : Json :=
  .obj (fields.foldl (fun sorted (n, v) => Keyed.insert n v sorted) [])

/-- The field `name` of an object. -/
def get? (j : Json) (name : String) : Option Json :=
  match j with
  | .obj fields => fields.lookup name
  | _ => none

def isNull : Json → Bool
  | .null => true
  | _ => false

end Json
end PoolIndexer
