import PoolIndexer.Text.Printable

/-!
Texts shown between quotes in messages.
-/
namespace PoolIndexer.Quoted

/-- The hexadecimal digits of a code point, without leading zeros. -/
def hexDigits (n : Nat) : List Char := Nat.toDigits 16 n

/-- A character as it stands between the quotes: quotes and backslashes after a backslash, the
usual letters for the usual controls, and all else that cannot be seen by its code point. -/
def escape (c : Char) : List Char :=
  if c = '"' then ['\\', '"']
  else if c = '\\' then ['\\', '\\']
  else if c = '\x00' then ['\\', '0']
  else if c = '\t' then ['\\', 't']
  else if c = '\r' then ['\\', 'r']
  else if c = '\n' then ['\\', 'n']
  else if isPrintable c then [c]
  else ['\\', 'u', '\x7b'] ++ hexDigits c.toNat ++ ['\x7d']

def encode (s : String) : String := String.ofList ('"' :: (s.toList.flatMap escape ++ ['"']))

end PoolIndexer.Quoted
