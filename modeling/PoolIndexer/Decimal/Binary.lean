import PoolIndexer.Decimal
import PoolIndexer.Binary64

/-!
Passing between decimals and binary64, and the display values made of raw amounts.
-/
namespace PoolIndexer

/-- The exact value of a finite number: every binary fraction has a finite decimal. -/
def Binary64.toDecimal? (x : Binary64) : Option Decimal :=
  if !x.isFinite then none
  else if x.isZero then some .zero
  else
    let signed := fun n : Nat => if x.negative then -(n : Int) else n
    if 0 ≤ x.exponent then some ⟨signed (x.significand * twoTo x.exponent.toNat), 0⟩
    else
      -- halve while it goes, so that the scale is the least one
      let rec halve : Nat → Nat → Nat → Nat × Nat
        | 0, m, e => (m, e)
        | fuel + 1, m, e => if e ≠ 0 ∧ m % 2 = 0 then halve fuel (m / 2) (e - 1) else (m, e)
      let (m, e) := halve 53 x.significand (-x.exponent).toNat
      some ⟨signed (m * Nat.pow 5 e), e⟩

namespace Decimal

/-- The decimal digit count that a binary length allows: the integer part of
`(bits + 1) * log10 2`. -/
def digitBound (n : Nat) : Nat := (n.log2 + 2) * 30102999566398119521 / 100000000000000000000

/-- How many blocks of nineteen digits are dropped before the conversion, so that about
twenty-five remain. -/
def droppedBlocks (n : Nat) : Nat := (digitBound n - 25) / 19

/-- The nearest binary64 number, after long digit strings lose trailing blocks of nineteen. -/
def toBinary64 (a : Decimal) : Binary64 :=
  let negative := decide (a.digits < 0)
  let n := a.digits.natAbs
  if n = 0 then .zero
  else if a.scale = 0 then .ofRatio negative n 1
  else
    let blocks := droppedBlocks n
    let n := n / tenTo (19 * blocks)
    let scale := a.scale - 19 * blocks
    if scale ≤ 0 then (Binary64.ofRatio negative n 1).mul (.ofDecimal false 1 (-scale))
    else .ofDecimal negative n (-scale)

/-- Decimals of every asset traded on the exchange. -/
def defaultPlaces : Nat := 6

/-- The display value of a raw amount with `places` decimals. -/
def display (amount : Int) (places : Nat) : Binary64 :=
  match (ofInt amount).div (ofInt (tenTo places)) with
  | .ok a => a.toBinary64
  | .error _ => .zero

/-- The ratio of two raw amounts, cut to six places; 0 where the denominator is 0. -/
def displayRatio (numerator denominator : Int) : Binary64 :=
  if denominator = 0 then .zero
  else display ((numerator * tenTo defaultPlaces).tdiv denominator) defaultPlaces

/-- A value cut to six places. -/
def displayValue (a : Decimal) : Binary64 :=
  display (a.mul (ofInt (tenTo defaultPlaces))).truncate defaultPlaces

end Decimal

/-- `current - delta`, but never below zero. -/
def monus (current delta : Int) : Int := max (current - delta) 0

end PoolIndexer
