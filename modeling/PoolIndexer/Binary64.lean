import PoolIndexer.Power

/-!
Binary64 floating point as words: one sign bit, eleven exponent bits, fifty-two fraction bits.

A finite number is `significand * 2 ^ exponent` up to its sign. Every operation computes its exact
result as a ratio of natural numbers and rounds once, to the nearest word and at a tie to the even
one, so all arithmetic is open to proof.
-/
namespace PoolIndexer

/-- A binary64 number, held as its word. -/
structure Binary64 where
  bits : UInt64
  deriving DecidableEq, Repr, Inhabited

namespace Binary64

/-- The word without its sign bit; for finite numbers and infinities it grows with the magnitude. -/
def magnitude (x : Binary64) : Nat := x.bits.toNat % twoTo 63

def negative (x : Binary64) : Bool := decide (twoTo 63 ≤ x.bits.toNat)

/-- The magnitude of the infinities; greater ones are no numbers. -/
def infinityMagnitude : Nat := 2047 * twoTo 52

def isNaN (x : Binary64) : Bool := decide (infinityMagnitude < x.magnitude)

def isFinite (x : Binary64) : Bool := decide (x.magnitude < infinityMagnitude)

def isZero (x : Binary64) : Bool := x.magnitude == 0

/-- The integral significand of a finite number: the fraction, with the hidden bit of a normal
number. -/
def significand (x : Binary64) : Nat :=
  if x.magnitude / twoTo 52 = 0 then x.magnitude else twoTo 52 + x.magnitude % twoTo 52

/-- The exponent of the significand's last bit. -/
def exponent (x : Binary64) : Int := (max (x.magnitude / twoTo 52) 1 : Nat) - (1075 : Int)

/-- The number of a given sign and magnitude. -/
def ofMagnitude (negative : Bool) (magnitude : Nat) : Binary64 :=
  ⟨UInt64.ofNat (magnitude + if negative then twoTo 63 else 0)⟩

def zero : Binary64 := ofMagnitude false 0

def infinity (negative : Bool) : Binary64 := ofMagnitude negative infinityMagnitude

def nan : Binary64 := ofMagnitude false (infinityMagnitude + twoTo 51)

/-- Changes the sign bit alone. -/
def neg (x : Binary64) : Binary64 := ofMagnitude (!x.negative) x.magnitude

/-- The quotient `n / d` rounded to the nearest integer, at a tie to the even one. -/
def roundHalfEven (n d : Nat) : Nat :=
  let q := n / d
  let r := n % d
  if d < 2 * r ∨ (2 * r = d ∧ q % 2 = 1) then q + 1 else q

/-- The integer part of the binary logarithm of `n / d`, for positive `n` and `d`. -/
def log2Ratio (n d : Nat) : Int :=
  let l : Int := n.log2 - d.log2
  if (if 0 ≤ l then d * twoTo l.toNat ≤ n else d ≤ n * twoTo (-l).toNat) then l else l - 1

/-- The number nearest to `n / d`, at a tie the one with the even word. Past the greatest finite
number comes infinity. -/
def ofRatio (negative : Bool) (n d : Nat) : Binary64 :=
  if n = 0 then ofMagnitude negative 0
  else
    let e := max (log2Ratio n d - 52) (-1074)
    let q := if 0 ≤ e then roundHalfEven n (d * twoTo e.toNat)
      else roundHalfEven (n * twoTo (-e).toNat) d
    ofMagnitude negative (min ((e + 1074).toNat * twoTo 52 + q) infinityMagnitude)

/-- `n * 2 ^ e` rounded. -/
def ofDyadic (negative : Bool) (n : Nat) (e : Int) : Binary64 :=
  if 0 ≤ e then ofRatio negative (n * twoTo e.toNat) 1 else ofRatio negative n (twoTo (-e).toNat)

/-- `n * 10 ^ e` rounded. A power beyond every finite number or below half the least one is not
computed. -/
def ofDecimal (negative : Bool) (n : Nat) (e : Int) : Binary64 :=
  if n = 0 then ofMagnitude negative 0
  else if 310 < e then infinity negative
  else if e + n.log2 + 351 < 0 then ofMagnitude negative 0
  else if 0 ≤ e then ofRatio negative (n * tenTo e.toNat) 1
  else ofRatio negative n (tenTo (-e).toNat)

def ofInt (n : Int) : Binary64 := ofRatio (decide (n < 0)) n.natAbs 1

def one : Binary64 := ofInt 1

def mul (x y : Binary64) : Binary64 :=
  let sign := x.negative != y.negative
  if x.isNaN || y.isNaN then nan
  else if x.isFinite && y.isFinite then
    ofDyadic sign (x.significand * y.significand) (x.exponent + y.exponent)
  else if x.isZero || y.isZero then nan
  else infinity sign

def div (x y : Binary64) : Binary64 :=
  let sign := x.negative != y.negative
  if x.isNaN || y.isNaN then nan
  else if !x.isFinite then if y.isFinite then infinity sign else nan
  else if !y.isFinite then ofMagnitude sign 0
  else if y.isZero then if x.isZero then nan else infinity sign
  else
    let e := x.exponent - y.exponent
    if 0 ≤ e then ofRatio sign (x.significand * twoTo e.toNat) y.significand
    else ofRatio sign x.significand (y.significand * twoTo (-e).toNat)

/-- The place of a number in the order; both zeros have the same. -/
def rank (x : Binary64) : Int := if x.negative then -x.magnitude else x.magnitude

/-- `x < y`, false where either is no number. -/
def lt (x y : Binary64) : Bool := !x.isNaN && !y.isNaN && decide (x.rank < y.rank)

/-- The greater of two numbers; what is no number loses. -/
def max (x y : Binary64) : Binary64 :=
  if x.isNaN then y else if y.isNaN then x else if x.lt y then y else x

/-- The lesser of two numbers; what is no number loses. -/
def min (x y : Binary64) : Binary64 :=
  if x.isNaN then y else if y.isNaN then x else if y.lt x then y else x

end Binary64
end PoolIndexer
