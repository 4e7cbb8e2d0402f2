/-!
Cutting a list into runs of one length.
-/
namespace PoolIndexer

/-- A list in runs of `size` items, of which the last may be shorter. No run is empty. -/
def runs {α : Type} (size : Nat) : List α → List (List α)
  | [] => []
  | a :: rest => (a :: rest.take (size - 1)) :: runs size (rest.drop (size - 1))
termination_by items => items.length
decreasing_by
  simp only [List.length_drop, List.length_cons]
  omega

end PoolIndexer
