import PoolIndexer.Json
import PoolIndexer.Binary64.Shortest

/-!
The compact text of JSON values: no blanks, fields in order, and only quotes, backslashes and
control characters escaped.
-/
namespace PoolIndexer.Json

def hexDigits : List Char := "0123456789abcdef".toList

def hexDigit (n : Nat) : Char := hexDigits.getD n '0'

/-- A character as it stands inside a string literal. -/
def escape (c : Char) : List Char :=
  if c = '"' then ['\\', '"']
  else if c = '\\' then ['\\', '\\']
  else if c = '\n' then ['\\', 'n']
  else if c = '\r' then ['\\', 'r']
  else if c = '\t' then ['\\', 't']
  else if c = '\x08' then ['\\', 'b']
  else if c = '\x0c' then ['\\', 'f']
  else if c.toNat < 0x20 then
    ['\\', 'u', '0', '0', hexDigit (c.toNat / 16), hexDigit (c.toNat % 16)]
  else [c]

/-- A string literal with its quotes. -/
def quote (s : String) : List Char := '"' :: (s.toList.flatMap escape ++ ['"'])

mutual

/-- The compact text of a value. A number that is not finite has no text of its own and becomes
`null`. -/
def render : Json → List Char
  | .null => ['n', 'u', 'l', 'l']
  | .bool true => ['t', 'r', 'u', 'e']
  | .bool false => ['f', 'a', 'l', 's', 'e']
  | .int n => Numeral.ofInt n
  | .real x => if x.isFinite then x.jsonText else ['n', 'u', 'l', 'l']
  | .str s => quote s
  | .arr items => '[' :: (renderItems items ++ [']'])
  | .obj fields => '\x7b' :: (renderFields fields ++ ['\x7d'])

/-- Items divided by commas. -/
def renderItems : List Json → List Char
  | [] => []
  | [j] => render j
  | j :: rest => render j ++ ',' :: renderItems rest

/-- Fields divided by commas. -/
def renderFields : List (String × Json) → List Char
  | [] => []
  | [(name, j)] => quote name ++ ':' :: render j
  | (name, j) :: rest => quote name ++ ':' :: (render j ++ ',' :: renderFields rest)

end

/-- The compact text as a string. -/
def compact (j : Json) : String := String.ofList j.render

end PoolIndexer.Json
