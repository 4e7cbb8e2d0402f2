import PoolIndexer.Text.Blank

/-!
Cutting an SQL script into its statements.

A semicolon ends a statement unless it stands in a body quoted by pairs of dollar signs, that is,
after an odd number of `$$` marks. Marks do not overlap.
-/
namespace PoolIndexer.Sql

/-- Puts a character at the front of the first piece. -/
def prependChar (c : Char) : List (List Char) → List (List Char)
  | [] => [[c]]
  | piece :: rest => (c :: piece) :: rest

/-- The pieces between the semicolons that end statements; `quoted` tells whether the text starts
inside a quoted body. -/
def pieces (quoted : Bool) : List Char → List (List Char)
  | [] => [[]]
  | '$' :: '$' :: rest => prependChar '$' (prependChar '$' (pieces (!quoted) rest))
  | ';' :: rest => if quoted then prependChar ';' (pieces quoted rest) else [] :: pieces quoted rest
  | c :: rest => prependChar c (pieces quoted rest)

/-- The statements of a script: the pieces that are not blank, with the blanks around them. -/
def statements (script : List Char) : List (List Char) :=
  (pieces false script).filter fun piece => !piece.all isBlank

end PoolIndexer.Sql
