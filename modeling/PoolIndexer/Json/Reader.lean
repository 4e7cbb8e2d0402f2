import PoolIndexer.Json.Number
import PoolIndexer.Text.Utf8

/-!
Reading JSON text into documents.

The text is made of characters and of bytes that are none; the latter may stand inside of strings
alone, and spoil them as escapes do that name no character. Every scanner takes the rest of the text
and gives what it read and what follows. The recursion is bounded by fuel: a level of nesting takes
two units and has two brackets, an item takes one and has a character at least, so one unit more
than the text is long is always enough.
-/
namespace PoolIndexer.Json

open Utf8 (Symbol)

/-- The four blanks that JSON allows between tokens. -/
def isGap (c : Char) : Bool := c == ' ' || c == '\n' || c == '\t' || c == '\r'

def skipGap (s : List Symbol) : List Symbol := s.dropWhile (·.any isGap)

/-- Four hexadecimal digits. -/
def hexUnit? (a b c d : Symbol) : Option Nat := do
  let a ← a.bind Numeral.hexValue?
  let b ← b.bind Numeral.hexValue?
  let c ← c.bind Numeral.hexValue?
  let d ← d.bind Numeral.hexValue?
  return ((a * 16 + b) * 16 + c) * 16 + d

/-- The character that a letter after a backslash stands for. -/
def simpleEscape? (c : Char) : Option Char :=
  match c with
  | '"' => some '"'
  | '\\' => some '\\'
  | '/' => some '/'
  | 'b' => some '\x08'
  | 'f' => some '\x0c'
  | 'n' => some '\n'
  | 'r' => some '\r'
  | 't' => some '\t'
  | _ => none

def isHighHalf (unit : Nat) : Bool := 0xd800 ≤ unit && unit ≤ 0xdbff

def isLowHalf (unit : Nat) : Bool := 0xdc00 ≤ unit && unit ≤ 0xdfff

/-- The character beyond the basic plane that two halves make. -/
def joinHalves (high low : Nat) : Char :=
  Char.ofNat (0x10000 + (high - 0xd800) * 0x400 + (low - 0xdc00))

/-- Puts a character, or the mark of an unreadable one, before what a string scanner read. -/
def prepend (c : Symbol) :
    Option (Option (List Char) × List Symbol) → Option (Option (List Char) × List Symbol)
  | none => none
  | some (text, rest) => some (c.bind fun c => text.map (c :: ·), rest)

/-- The rest of a string literal after its opening quote. The text is `none` if an escape names
no character or a byte is part of none; a control character, a bad escape or a missing quote is an
error. -/
def scanString : List Symbol → Option (Option (List Char) × List Symbol)
  | [] => none
  | some '"' :: r => some (some [], r)
  | some '\\' :: some 'u' :: a :: b :: c :: d :: r =>
    match hexUnit? a b c d with
    | none => none
    | some unit =>
      if isHighHalf unit then
        match r with
        | some '\\' :: some 'u' :: a' :: b' :: c' :: d' :: r' =>
          match hexUnit? a' b' c' d' with
          | none => none
          | some low =>
            if isLowHalf low then prepend (some (joinHalves unit low)) (scanString r')
            else prepend none (scanString r')
        | r => prepend none (scanString r)
      else if isLowHalf unit then prepend none (scanString r)
      else prepend (some (Char.ofNat unit)) (scanString r)
  | some '\\' :: e :: r =>
    match e.bind simpleEscape? with
    | none => none
    | some c => prepend (some c) (scanString r)
  | some c :: r =>
    if c.toNat < 0x20 || c == '\\' then none else prepend (some c) (scanString r)
  | none :: r => prepend none (scanString r)

/-- The digits at the front, and what follows them. -/
def spanDigits : List Symbol → List Char × List Symbol
  | some c :: r =>
    if c.isDigit then
      let (ds, r) := spanDigits r
      (c :: ds, r)
    else ([], some c :: r)
  | r => ([], r)

/-- A nonempty run of digits. -/
def scanDigits? (s : List Symbol) : Option (List Char × List Symbol) :=
  match spanDigits s with
  | ([], _) => none
  | found => some found

/-- A number: no leading zeros, and digits on both sides of a point. -/
def scanNumber (s : List Symbol) : Option (NumberLiteral × List Symbol) := do
  let (negative, s) := match s with
    | some '-' :: r => (true, r)
    | s => (false, s)
  let (whole, s) ← scanDigits? s
  if whole.head? = some '0' ∧ 1 < whole.length then none
  let (fraction, s) ← match s with
    | some '.' :: r => scanDigits? r
    | s => some ([], s)
  let (exponent, s) ← match s with
    | some c :: r =>
      if c = 'e' ∨ c = 'E' then do
        let (down, r) := match r with
          | some '-' :: r => (true, r)
          | some '+' :: r => (false, r)
          | r => (false, r)
        let (ds, r) ← scanDigits? r
        pure (some (Numeral.signed down (Numeral.value ds)), r)
      else pure (none, s)
    | s => pure (none, s)
  return (⟨negative, whole, fraction, exponent⟩, s)

mutual

/-- One value, after any blanks. -/
def readValue : Nat → List Symbol → Option (Document × List Symbol)
  | 0, _ => none
  | fuel + 1, s =>
    match skipGap s with
    | some '\x7b' :: r =>
      match skipGap r with
      | some '\x7d' :: r => some (.obj [], r)
      | r => (readFields fuel r).map fun (fields, r) => (.obj fields, r)
    | some '[' :: r =>
      match skipGap r with
      | some ']' :: r => some (.arr [], r)
      | r => (readItems fuel r).map fun (items, r) => (.arr items, r)
    | some '"' :: r => (scanString r).map fun (text, r) => (.str (text.map String.ofList), r)
    | some 'n' :: some 'u' :: some 'l' :: some 'l' :: r => some (.null, r)
    | some 't' :: some 'r' :: some 'u' :: some 'e' :: r => some (.bool true, r)
    | some 'f' :: some 'a' :: some 'l' :: some 's' :: some 'e' :: r => some (.bool false, r)
    | s => (scanNumber s).map fun (literal, r) => (literal.document, r)

/-- Items up to the closing bracket, at least one. -/
def readItems : Nat → List Symbol → Option (List Document × List Symbol)
  | 0, _ => none
  | fuel + 1, s => do
    let (item, r) ← readValue fuel s
    match skipGap r with
    | some ']' :: r => some ([item], r)
    | some ',' :: r =>
      let (items, r) ← readItems fuel r
      some (item :: items, r)
    | _ => none

/-- Fields up to the closing brace, at least one. -/
def readFields : Nat → List Symbol → Option (List (Option String × Document) × List Symbol)
  | 0, _ => none
  | fuel + 1, s => do
    match skipGap s with
    | some '"' :: r =>
      let (name, r) ← scanString r
      let field := name.map String.ofList
      match skipGap r with
      | some ':' :: r =>
        let (value, r) ← readValue fuel r
        match skipGap r with
        | some '\x7d' :: r => some ([(field, value)], r)
        | some ',' :: r =>
          let (fields, r) ← readFields fuel r
          some ((field, value) :: fields, r)
        | _ => none
      | _ => none
    | _ => none

end

/-- The document of a whole text. -/
def read? (s : List Symbol) : Option Document :=
  match readValue (s.length + 1) s with
  | some (d, r) => if (skipGap r).isEmpty then some d else none
  | none => none

/-- The document of a text. -/
def document? (text : String) : Option Document := read? (Utf8.ofText text)

/-- The document of a text that comes as bytes. -/
def documentOfBytes? (bytes : List UInt8) : Option Document := read? (Utf8.symbols bytes)

/-- The value of a text. -/
def parse? (text : String) : Option Json := (document? text).bind (ofDocument? maxDepth)

end PoolIndexer.Json
