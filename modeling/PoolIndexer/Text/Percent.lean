import PoolIndexer.Text.Numeral

/-!
Percent encoding: a character that may not stand for itself is written as its UTF-8 bytes, each as
a percent sign and two digits. A percent sign without two digits stands for itself when it is read.
-/
namespace PoolIndexer.Percent

def digits : List Char := "0123456789ABCDEF".toList

def digit (n : Nat) : Char := digits.getD n '0'

def byte (b : UInt8) : List Char := ['%', digit (b.toNat / 16), digit (b.toNat % 16)]

def bytes (c : Char) : List Char := (String.singleton c).toUTF8.toList.flatMap byte

/-- The bytes that an encoded text stands for. -/
def decode : List Char → List UInt8
  | '%' :: a :: b :: rest =>
    match Numeral.hexValue? a, Numeral.hexValue? b with
    | some x, some y => UInt8.ofNat (16 * x + y) :: decode rest
    | _, _ => UInt8.ofNat '%'.toNat :: decode (a :: b :: rest)
  | c :: rest => (String.singleton c).toUTF8.toList ++ decode rest
  | [] => []

/-- Characters that never stand for themselves: controls, and all beyond ASCII. -/
def isControl (c : Char) : Bool := c.toNat < 0x20 || 0x7f ≤ c.toNat

/-- A text in which controls and the `reserved` characters are encoded. -/
def encode (reserved : List Char) (s : List Char) : List Char :=
  s.flatMap fun c => if isControl c || reserved.contains c then bytes c else [c]

/-- A character that stands for itself in a form. -/
def isPlain (c : Char) : Bool := c.isAlphanum || c == '*' || c == '-' || c == '.' || c == '_'

/-- A text as a form sends it: a blank becomes a plus sign. -/
def form (s : List Char) : List Char :=
  s.flatMap fun c => if c = ' ' then ['+'] else if isPlain c then [c] else bytes c

end PoolIndexer.Percent
