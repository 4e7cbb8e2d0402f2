import PoolIndexer.Unicode.Combining
import PoolIndexer.Unicode.Composition

/-!
The composed normal form of texts: characters are taken apart, the marks after a character are put
in the order of their classes, and then parts are put together as far as they go.
-/
namespace PoolIndexer.Unicode

/-- Puts a mark in front of an ordered text, behind the marks of a lower class. -/
def insertMark (c : Char) : List Char → List Char
  | [] => [c]
  | d :: rest =>
    if combiningClass d ≠ 0 ∧ combiningClass d < combiningClass c then d :: insertMark c rest
    else c :: d :: rest

/-- A text with its marks in order; those of one class stay as they are. -/
def ordered : List Char → List Char
  | [] => []
  | c :: rest => if combiningClass c = 0 then c :: ordered rest else insertMark c (ordered rest)

/-- Composes what follows a character and the marks after it that could not be joined to it. A mark
reaches the character only past marks of a lower class. -/
def composeAfter (c : Char) (marks : List Char) : List Char → List Char
  | [] => c :: marks
  | d :: rest =>
    let reaches := marks.getLast?.all (combiningClass · < combiningClass d)
    match if reaches then compose? c d else none with
    | some e => composeAfter e marks rest
    | none =>
      if combiningClass d = 0 then c :: (marks ++ composeAfter d [] rest)
      else composeAfter c (marks ++ [d]) rest

/-- Composes an ordered text. -/
def composed : List Char → List Char
  | [] => []
  | c :: rest => if combiningClass c = 0 then composeAfter c [] rest else c :: composed rest

/-- The normal form of a text. -/
def normalized (s : List Char) : List Char := composed (ordered (s.flatMap decompose))

end PoolIndexer.Unicode
