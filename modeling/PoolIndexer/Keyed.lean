/-!
Lists of entries sorted by key, each key once.
-/
namespace PoolIndexer.Keyed

variable {κ α : Type} [LT κ] [DecidableLT κ] [DecidableEq κ]

/-- Makes the value of a key out of its present one; a new key goes to its place in the order. -/
def upsert (key : κ) (value : Option α → α) : List (κ × α) → List (κ × α)
  | [] => [(key, value none)]
  | (k, a) :: rest =>
    if key < k then (key, value none) :: (k, a) :: rest
    else if key = k then (key, value (some a)) :: rest
    else (k, a) :: upsert key value rest

/-- Gives a key a value, in place of any it has. -/
def insert (key : κ) (value : α) : List (κ × α) → List (κ × α) := upsert key fun _ => value

end PoolIndexer.Keyed
