/-!
Cutting texts at characters with a property. Nothing is lost but the characters that are cut at.
-/
namespace PoolIndexer.Text

/-- The part before the first character with a property, and the rest from there on. -/
def spanUntil (stop : Char → Bool) (s : List Char) : List Char × List Char :=
  (s.takeWhile (!stop ·), s.dropWhile (!stop ·))

/-- The part before a mark and, if there is one, the part after it. -/
def cutAt (mark : Char) (s : List Char) : List Char × Option (List Char) :=
  match spanUntil (· == mark) s with
  | (before, _ :: after) => (before, some after)
  | (before, []) => (before, none)

/-- The part before the last of several marks and the part after it, if there is a mark. -/
def cutAtLast? (mark : Char) (s : List Char) : Option (List Char × List Char) :=
  match spanUntil (· == mark) s.reverse with
  | (after, _ :: before) => some (before.reverse, after.reverse)
  | (_, []) => none

/-- The parts between the characters with a property. -/
def splitAt (stop : Char → Bool) (s : List Char) : List (List Char) :=
  s.foldr (fun c parts =>
    if stop c then [] :: parts
    else match parts with
      | part :: rest => (c :: part) :: rest
      | [] => [[c]]) [[]]

end PoolIndexer.Text
