import PoolIndexer.Binary64
import PoolIndexer.Text.Numeral

/-!
Decimals of any size and precision: `digits * 10 ^ (-scale)`.

Sums, products and comparisons are exact. A quotient that does not end is cut to a hundred
significant digits and rounded by the next one; dividing by a one changes nothing, unless it has
more zeros than it is known by.
-/
namespace PoolIndexer

/-- The number `digits * 10 ^ (-scale)`; a negative scale stands for trailing zeros. -/
structure Decimal where
  digits : Int
  scale : Int
  deriving DecidableEq, Repr, Inhabited

/-- Arithmetic has one way to fail. -/
inductive ArithmeticError
  | divisionByZero
  deriving DecidableEq, Repr

namespace Decimal

def ofInt (n : Int) : Decimal := ⟨n, 0⟩

def zero : Decimal := ofInt 0

def isZero (a : Decimal) : Bool := a.digits == 0

/-- The digits of a number written at a finer scale. -/
def digitsAt (a : Decimal) (scale : Int) : Int := a.digits * tenTo (scale - a.scale).toNat

def add (a b : Decimal) : Decimal :=
  let s := max a.scale b.scale
  ⟨a.digitsAt s + b.digitsAt s, s⟩

def neg (a : Decimal) : Decimal := ⟨-a.digits, a.scale⟩

def sub (a b : Decimal) : Decimal := a.add b.neg

def mul (a b : Decimal) : Decimal := ⟨a.digits * b.digits, a.scale + b.scale⟩

/-- `a < b` as numbers, whatever their scales. -/
def lt (a b : Decimal) : Bool :=
  let s := max a.scale b.scale
  decide (a.digitsAt s < b.digitsAt s)

/-- The zeros with which a one is still known as such: those of the greatest power of ten that fits
an unsigned 128-bit word. -/
def unitPlaces : Nat := 38

/-- A one, written with few enough zeros after the point. -/
def isOne (a : Decimal) : Bool :=
  0 ≤ a.scale && a.scale ≤ unitPlaces && a.digits == tenTo a.scale.toNat

def sum (xs : List Decimal) : Decimal := xs.foldl add zero

/-- The significant digits a quotient is cut to. -/
def precision : Nat := 100

/-- Multiplies by ten until the divisor fits, counting the factors; `fuel` bounds their number. -/
def widen (d : Nat) : Nat → Nat → Int → Nat × Int
  | 0, n, scale => (n, scale)
  | fuel + 1, n, scale => if n < d then widen d fuel (10 * n) (scale + 1) else (n, scale)

/-- Long division from quotient `q` and remainder `r` on: one digit more at every step, until the
remainder is zero or the digits run out. -/
def longDivision (d : Nat) : Nat → Nat → Nat → Int → Nat × Nat × Int
  | 0, q, r, scale => (q, r, scale)
  | more + 1, q, r, scale =>
    if r = 0 then (q, r, scale)
    else longDivision d more (10 * q + 10 * r / d) (10 * r % d) (scale + 1)

/-- The quotient of two positive integers: exact if it ends within the precision, else rounded by
the digit after the last one. -/
def quotient (n d : Nat) (scale : Int) : Nat × Int :=
  let (n, scale) := widen d (d.log2 + 1) n scale
  let q := n / d
  let (q, r, scale) := longDivision d (precision - (Numeral.digits q).length) q (n % d) scale
  (if 5 ≤ 10 * r / d then q + 1 else q, scale)

def div (a b : Decimal) : Except ArithmeticError Decimal :=
  if b.isZero then .error .divisionByZero
  else if a.isZero || b.isOne then .ok a
  else if a.digits = b.digits then .ok ⟨1, a.scale - b.scale⟩
  else
    let (q, scale) := quotient a.digits.natAbs b.digits.natAbs (a.scale - b.scale)
    .ok ⟨if (a.digits < 0) = (b.digits < 0) then q else -q, scale⟩

/-- The integer part, towards zero. -/
def truncate (a : Decimal) : Int :=
  if 0 ≤ a.scale then a.digits.tdiv (tenTo a.scale.toNat) else a.digits * tenTo (-a.scale).toNat

def half : Decimal := ⟨5, 1⟩

/-- The nearest integer; halves go away from zero. -/
def round (a : Decimal) : Int :=
  if a.digits < 0 then -(a.neg.add half).truncate else (a.add half).truncate

/-- The same number with no trailing zeros among its digits; zero has scale zero. -/
def normalize (a : Decimal) : Decimal :=
  if a.digits = 0 then zero
  else
    let rec go : Nat → Nat → Int → Nat × Int
      | 0, n, s => (n, s)
      | fuel + 1, n, s => if n % 10 = 0 then go fuel (n / 10) (s - 1) else (n, s)
    let (n, s) := go (a.digits.natAbs.log2 + 1) a.digits.natAbs a.scale
    ⟨if a.digits < 0 then -n else n, s⟩

end Decimal
end PoolIndexer
