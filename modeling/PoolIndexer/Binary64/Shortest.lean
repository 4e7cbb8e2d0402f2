import PoolIndexer.Binary64
import PoolIndexer.Text.Numeral

/-!
The shortest decimal that reads back as a given binary64 number, and the two layouts it is
written in: always positional in row keys, with an exponent for very large and very small
numbers in JSON.
-/
namespace PoolIndexer

/-- A positive decimal `digits * 10 ^ exponent`. -/
structure DecimalDigits where
  digits : Nat
  exponent : Int
  deriving DecidableEq, Repr

/-- The ratio `n / d` times a power of ten, as numerator and denominator. -/
def scaleByTen (n d : Nat) (e : Int) : Nat × Nat :=
  if 0 ≤ e then (n * tenTo e.toNat, d) else (n, d * tenTo (-e).toNat)

namespace DecimalDigits

/-- The same number with the trailing zeros of its digits moved into the exponent; `fuel` bounds
how many. -/
def normalize : Nat → DecimalDigits → DecimalDigits
  | 0, x => x
  | fuel + 1, x =>
    if x.digits ≠ 0 ∧ x.digits % 10 = 0 then normalize fuel ⟨x.digits / 10, x.exponent + 1⟩ else x

end DecimalDigits

namespace Binary64

/-- The reals that round to a positive finite number, as multiples of a quarter of its last bit,
with whether the ends belong to them. -/
structure Interval where
  low : Nat
  high : Nat
  closed : Bool

def interval (x : Binary64) : Interval :=
  let m := x.significand
  let below := if m = twoTo 52 ∧ 1 < x.magnitude / twoTo 52 then 1 else 2
  ⟨4 * m - below, 4 * m + 2, m % 2 == 0⟩

/-- The ratio `n / d` lies in the interval. -/
def Interval.contains (i : Interval) (n d : Nat) : Bool :=
  if i.closed then i.low * d ≤ n && n ≤ i.high * d else i.low * d < n && n < i.high * d

/-- A quarter of the last bit of a number, as numerator and denominator. -/
def quarterBit (x : Binary64) : Nat × Nat :=
  let e := x.exponent - 2
  if 0 ≤ e then (twoTo e.toNat, 1) else (1, twoTo (-e).toNat)

/-- The exponent of the leading decimal digit of `n / d`. -/
def log10Ratio (n d : Nat) : Int :=
  let k := log2Ratio n d * 30103 / 100000
  let (n', d') := scaleByTen n d (-(k + 1))
  if d' ≤ n' then k + 1 else k

/-- The neighbour of a number on the grid `10 ^ g` that rounds to it; of two such neighbours the
nearer one, and at a tie the even one. -/
def onGrid? (x : Binary64) (g : Int) : Option DecimalDigits :=
  let (bn, bd) := x.quarterBit
  -- the value and the interval's unit in multiples of the grid step
  let (un, ud) := scaleByTen bn bd (-g)
  let vn := 4 * x.significand * un
  let q := vn / ud
  let r := vn % ud
  let inside := fun k : Nat => x.interval.contains (k * ud) un
  let up := ud < 2 * r || (2 * r == ud && q % 2 == 1)
  let (first, second) := if up then (q + 1, q) else (q, q + 1)
  if inside first then some ⟨first, g⟩
  else if inside second then some ⟨second, g⟩
  else none

/-- The decimal with the fewest digits that rounds to a positive finite number, the nearest of
those. Seventeen digits are always enough. -/
def shortest (x : Binary64) : DecimalDigits :=
  let (bn, bd) := x.quarterBit
  let k := log10Ratio (4 * x.significand * bn) bd
  let found := (List.range 17).findSome? fun n : Nat => x.onGrid? (k - n)
  (found.getD ⟨0, 0⟩).normalize 20

/-- Digits with the decimal point set by the exponent, and zeros where digits are missing. -/
def positional (x : DecimalDigits) (fraction : List Char) : List Char :=
  let ds := Numeral.digits x.digits
  if 0 ≤ x.exponent then ds ++ List.replicate x.exponent.toNat '0' ++ fraction
  else
    let places := (-x.exponent).toNat
    if places < ds.length then
      ds.take (ds.length - places) ++ '.' :: ds.drop (ds.length - places)
    else '0' :: '.' :: (List.replicate (places - ds.length) '0' ++ ds)

/-- One digit before the point, the others after it, then the signed exponent. -/
def scientific (x : DecimalDigits) : List Char :=
  let ds := Numeral.digits x.digits
  let e := x.exponent + ds.length - 1
  let mantissa := match ds with
    | d :: r@(_ :: _) => d :: '.' :: r
    | ds => ds
  mantissa ++ 'e' :: (if e < 0 then '-' else '+') :: Numeral.digits e.natAbs

def signText (x : Binary64) : List Char := if x.negative then ['-'] else []

/-- The text in row keys: never an exponent, and no fraction for a whole number. -/
def plainText (x : Binary64) : List Char :=
  if x.isNaN then ['N', 'a', 'N']
  else if !x.isFinite then x.signText ++ ['i', 'n', 'f']
  else if x.isZero then x.signText ++ ['0']
  else x.signText ++ positional x.shortest []

/-- The text of a finite number in JSON: a whole number keeps one zero after its point, and a
leading digit above `10 ^ 15` or below `10 ^ -5` calls for an exponent. -/
def jsonText (x : Binary64) : List Char :=
  if x.isZero then x.signText ++ ['0', '.', '0']
  else
    let d := x.shortest
    let e := d.exponent + (Numeral.digits d.digits).length - 1
    x.signText ++ if -5 ≤ e ∧ e ≤ 15 then positional d ['.', '0'] else scientific d

end Binary64
end PoolIndexer
