import PoolIndexer.Text.Cut
import PoolIndexer.Text.Percent

/-!
Paths of web addresses, as the segments that stand after their slashes.

Dots lead through a path as it is read: one stays, and two go up, though never above the root or a
drive letter. A path that ends in dots ends in an empty segment.
-/
namespace PoolIndexer

inductive UrlPath
  /-- A path that nothing can be appended to. -/
  | whole (s : String)
  /-- Encoded segments, each after a slash. -/
  | segments (items : List String)
  deriving DecidableEq, Repr, Inhabited

namespace UrlPath

/-! ## Parts of a path -/

/-- Tabs and line ends, which may stand anywhere in an address and mean nothing. -/
def isBreak (c : Char) : Bool := c == '\t' || c == '\n' || c == '\r'

def withoutBreaks (s : List Char) : List Char := s.filter (!isBreak ·)

/-- What is encoded in paths. -/
def reserved : List Char := " \"<>`#?\x7b\x7d".toList

/-- What is encoded in segments that are appended to the path of a scheme of the web, or not. -/
def segmentReserved (special : Bool) : List Char :=
  '/' :: '%' :: if special then '\\' :: reserved else reserved

def isDot (s : List Char) : Bool := s == ['.'] || s.map Char.toLower == ['%', '2', 'e']

def isDoubleDot (s : List Char) : Bool :=
  match s with
  | '.' :: rest => isDot rest
  | '%' :: a :: b :: rest => isDot ['%', a, b] && isDot rest
  | _ => false

/-- The name of a drive: a letter with a colon or a bar. -/
def isDrive (s : List Char) : Bool :=
  match s with
  | [c, mark] => c.isAlpha && (mark == ':' || mark == '|')
  | _ => false

/-- A drive with its colon, and what stands in the same part after a break. -/
def brokenDrive? (part : List Char) : Option (List Char × List Char) :=
  match Text.cutAt ':' part with
  | (letter, some (c :: rest)) =>
    let drive := withoutBreaks letter ++ [':']
    let rest := withoutBreaks rest
    if isBreak c && isDrive drive && !rest.isEmpty then some (drive, rest) else none
  | _ => none

/-- Where a part of a path leads. -/
inductive Step
  | up
  | stay
  | down (segments : List String)
  deriving DecidableEq, Repr

/-- The step of a part. At the root of a file's path there may be a drive, which is written with a
colon, and which a break divides from what follows. -/
def step (reserved : List Char) (atFileRoot : Bool) (part : List Char) : Step :=
  let text := Percent.encode reserved (withoutBreaks part)
  if isDoubleDot text then .up
  else if isDot text then .stay
  else if atFileRoot && isDrive text then .down [String.ofList (text.take 1 ++ [':'])]
  else match if atFileRoot then brokenDrive? part else none with
    | some (drive, rest) =>
      .down [String.ofList drive, String.ofList (Percent.encode reserved rest)]
    | none => .down [String.ofList text]

/-! ## Reading -/

/-- A segment that cannot be left upwards: a drive, perhaps with a backslash after it. -/
def holdsDrive (segment : String) : Bool :=
  match segment.toList with
  | c :: mark :: '\\' :: _ => isDrive [c, mark]
  | s => isDrive s

/-- The segments above those of a path. -/
def above (segments : List String) : List String :=
  match segments.getLast? with
  | some last => if holdsDrive last then segments else segments.dropLast
  | none => []

/-- The segments after a step that is not the last one. -/
def enter (segments : List String) : Step → List String
  | .up => above segments
  | .stay => segments
  | .down more => segments ++ more

/-- The segments after the last step. -/
def finish (segments : List String) : Step → List String
  | .down more => segments ++ more
  | dots => enter segments dots ++ [""]

/-- The segments that parts of a path lead to from others. -/
def follow (file : Bool) (segments : List String) : List (List Char) → List String
  | [] => segments
  | [part] => finish segments (step reserved (file && segments.isEmpty) part)
  | part :: rest =>
    follow file (enter segments (step reserved (file && segments.isEmpty) part)) rest

/-- The path of a file starts with one slash. -/
def withoutLeadingSlashes (segments : List String) : List String :=
  match segments.dropWhile (·.isEmpty) with
  | [] => [""]
  | segments => segments

/-! ## Appending -/

/-- Segments without an empty last one. The root stays. -/
def trimmed (segments : List String) : List String :=
  if segments.getLast? = some "" ∧ 1 < segments.length then segments.dropLast else segments

/-- Appends a segment, in place of the empty one that stands for the root. -/
def append (file special : Bool) (segments : List String) (part : List Char) : List String :=
  let base := if segments = [""] then [] else segments
  let segments := finish base (step (segmentReserved special) (file && base.isEmpty) part)
  if file then withoutLeadingSlashes segments else segments

/-- The path as it is written. -/
def text : UrlPath → String
  | .whole s => s
  | .segments items => String.join (items.map ("/" ++ ·))

end UrlPath
end PoolIndexer
