import PoolIndexer.Domain.Mapping
import PoolIndexer.Domain.Punycode
import PoolIndexer.Unicode.Direction
import PoolIndexer.Unicode.Joining
import PoolIndexer.Unicode.Mark
import PoolIndexer.Unicode.Normal

/-!
The names of domains, in characters of any script.

A name is mapped character by character, normalized, and divided into labels by points. A label that
is written in Punycode is read. Labels start with no mark, hold joiners only where they make a
difference, and, in a name with characters that run from right to left, do not mix the directions.
-/
namespace PoolIndexer.Domain

/-- Characters that no name may hold, though the mapping leaves them alone. -/
def isForbidden (c : Char) : Bool :=
  c.toNat ≤ 0x20 || c == '\x7f' || "#/:<>?@[\\]^|%".toList.contains c

/-! ## Joiners -/

/-- Whether the first character that others join, of those to one side of a joiner, joins it. -/
def joined (joins : Char → Bool) (side : List Char) : Bool :=
  ((side.dropWhile (Unicode.inRuns Unicode.transparent)).head?.map joins).getD false

/-- The joiners of a label stand after a virama, or keep letters apart that would be joined; the
characters before the label's rest stand in reverse. -/
def joinersFit (before : List Char) : List Char → Bool
  | [] => true
  | c :: rest =>
    let afterVirama := before.head?.any (Unicode.combiningClass · = Unicode.virama)
    let fits :=
      if c.toNat = 0x200c then
        afterVirama || joined Unicode.joinsAhead before && joined Unicode.joinsBack rest
      else c.toNat ≠ 0x200d || afterVirama
    fits && joinersFit (c :: before) rest

/-! ## Directions -/

open Unicode.Direction in
/-- The directions that may stand beside each other in a label that runs from right to left. -/
def beside : List Unicode.Direction :=
  [europeanNumber, separator, commonSeparator, terminator, neutral, boundary, mark]

open Unicode.Direction in
/-- A label that does not mix the directions. The last one that counts is not that of a mark. -/
def isDirected (label : List Char) : Bool :=
  let directions := label.map Unicode.direction
  let last := (directions.reverse.dropWhile (· == mark)).headD mark
  match directions with
  | [] => true
  | leftToRight :: _ =>
    directions.all (leftToRight :: beside).contains && [leftToRight, europeanNumber].contains last
  | first :: _ =>
    let allowed := [rightToLeft, arabicLetter, arabicNumber]
    [rightToLeft, arabicLetter].contains first
      && directions.all (allowed ++ beside).contains
      && (europeanNumber :: allowed).contains last
      && !(directions.contains europeanNumber && directions.contains arabicNumber)

/-! ## Labels -/

/-- What a label in Punycode starts with. -/
def codedMark : List Char := "xn--".toList

def isCoded (label : List Char) : Bool := label.take 4 == codedMark

/-- What holds of the characters of each label. -/
def isSound (label : List Char) : Bool :=
  !isCoded label && !label.any isForbidden && !label.head?.any Unicode.isMark
    && joinersFit [] label

/-- The label that Punycode stands for: it has characters beyond ASCII, and is what it would be
mapped to. -/
def decoded? (label : List Char) : Option (List Char) :=
  match Punycode.decode? (label.drop 4) with
  | some decoded =>
    if decoded.any (0x80 ≤ ·.toNat) && decoded.all (fun c => mapped? c == some [c])
      && Unicode.normalized decoded == decoded && isSound decoded then some decoded
    else none
  | none => none

def label? (label : List Char) : Option (List Char) :=
  if isCoded label then decoded? label
  else if isSound label then some label
  else none

/-- The labels of a name, read from Punycode where they are written so. -/
def labels? (name : List Char) : Option (List (List Char)) := do
  let mapped ← name.mapM mapped?
  let labels ← (Text.splitAt (· == '.') (Unicode.normalized mapped.flatten)).mapM label?
  if labels.flatten.any Unicode.isRightToLeft && !labels.all isDirected then none
  return labels

end PoolIndexer.Domain
