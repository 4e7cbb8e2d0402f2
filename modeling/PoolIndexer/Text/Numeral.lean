import PoolIndexer.Power

/-!
Decimal numerals: reading and writing integers.

Amounts are read liberally (a sign and underscores between digits), machine integers strictly.
`digits` writes what `value` reads back.
-/
namespace PoolIndexer.Numeral

/-- The value of a run of decimal digits, the most significant first. -/
def value (ds : List Char) : Nat := ds.foldl (fun n d => 10 * n + (d.toNat - '0'.toNat)) 0

/-- The value of a hexadecimal digit, in capitals or small letters. -/
def hexValue? (c : Char) : Option Nat :=
  if '0' ≤ c ∧ c ≤ '9' then some (c.toNat - '0'.toNat)
  else if 'a' ≤ c ∧ c ≤ 'f' then some (c.toNat - 'a'.toNat + 10)
  else if 'A' ≤ c ∧ c ≤ 'F' then some (c.toNat - 'A'.toNat + 10)
  else none

/-- The decimal digits of a natural number, without leading zeros. -/
def digits (n : Nat) : List Char := Nat.toDigits 10 n

/-- An integer as decimal text: a minus sign before the digits of a negative one. -/
def ofInt (n : Int) : List Char :=
  if n < 0 then '-' :: digits n.natAbs else digits n.natAbs

def text (n : Int) : String := String.ofList (ofInt n)

/-- A leading plus or minus sign, as "is negative", and what follows it. -/
def sign : List Char → Bool × List Char
  | '-' :: r => (true, r)
  | '+' :: r => (false, r)
  | s => (false, s)

def signed (negative : Bool) (n : Nat) : Int := if negative then -n else n

/-- Digits with underscores anywhere after the first digit. -/
def natural? : List Char → Option Nat
  | [] => none
  | d :: r =>
    let tail := r.filter (· != '_')
    if d.isDigit && tail.all Char.isDigit then some (value (d :: tail)) else none

/-- An integer of any size: an optional sign, then digits that may hold underscores after the
first. -/
def integer? (s : List Char) : Option Int :=
  let (negative, body) := sign s
  (natural? body).map (signed negative)

/-- An integer between two bounds: an optional sign, then nothing but digits. -/
def bounded? (low high : Int) (s : List Char) : Option Int :=
  let (negative, body) := sign s
  if body.isEmpty || !body.all Char.isDigit then none
  else
    let n := signed negative (value body)
    if low ≤ n ∧ n ≤ high then some n else none

/-- A number that fits an unsigned 64-bit word: an optional plus sign, then nothing but digits. -/
def word64? (s : List Char) : Option Nat :=
  let body := match s with
    | '+' :: r => r
    | s => s
  if body.isEmpty || !body.all Char.isDigit then none
  else
    let n := value body
    if n < twoTo 64 then some n else none

/-- An integer that fits a signed 64-bit word. -/
def int64? : List Char → Option Int := bounded? (-twoTo 63) (twoTo 63 - 1)

/-- An integer that fits a signed 128-bit word. -/
def int128? : List Char → Option Int := bounded? (-twoTo 127) (twoTo 127 - 1)

end PoolIndexer.Numeral
