import PoolIndexer.Json.Document
import PoolIndexer.Text.Numeral

/-!
The value of a JSON number.

A whole number that fits 64 bits is an integer. Any other takes as many leading digits as fit an
unsigned 64-bit word, and scales that word by one power of ten at a time, rounding at each step;
this is exact for the numbers that programs write, and one bit off at worst for the others.
-/
namespace PoolIndexer.Json

/-- A number literal by its parts; digits without signs, and the exponent with its sign. -/
structure NumberLiteral where
  negative : Bool
  whole : List Char
  fraction : List Char
  exponent : Option Int
  deriving Repr

/-- Appends digits to a word while it stays below `2 ^ 64`, and counts them. -/
def absorb (word : Nat) : List Char → Nat × Nat
  | [] => (word, 0)
  | d :: ds =>
    let next := 10 * word + (d.toNat - '0'.toNat)
    if next < twoTo 64 then
      let (word, count) := absorb next ds
      (word, count + 1)
    else (word, 0)

/-- The greatest power of ten used in one step. -/
def maxStep : Nat := 308

def powerOfTen (n : Nat) : Binary64 := .ofDecimal false 1 n

/-- `x * 10 ^ e` in steps, or `none` past the greatest finite number. -/
def scaleInSteps (x : Binary64) (e : Int) : Option Binary64 :=
  if e.natAbs ≤ maxStep then
    if 0 ≤ e then
      let y := x.mul (powerOfTen e.toNat)
      if y.isFinite then some y else none
    else some (x.div (powerOfTen (-e).toNat))
  else if x.isZero then some x
  else if 0 ≤ e then none
  else scaleInSteps (x.div (powerOfTen maxStep)) (e + maxStep)
termination_by e.natAbs
decreasing_by simp only [maxStep] at *; omega

namespace NumberLiteral

/-- The binary64 value of a literal. -/
def real? (l : NumberLiteral) : Option Binary64 :=
  let (word, taken) := absorb 0 l.whole
  let (word, places) := absorb word l.fraction
  let e := (l.whole.length - taken : Nat) - (places : Int) + l.exponent.getD 0
  (scaleInSteps (.ofInt word) e).map fun x => if l.negative then x.neg else x

/-- A whole number in the range of a signed or unsigned 64-bit word is an integer, but `-0` is
not. -/
def integer? (l : NumberLiteral) : Option Int :=
  if l.fraction.isEmpty && l.exponent.isNone then
    let n := Numeral.value l.whole
    if l.negative then if 0 < n ∧ n ≤ twoTo 63 then some (-n) else none
    else if n < twoTo 64 then some n else none
  else none

def document (l : NumberLiteral) : Document :=
  match l.integer? with
  | some n => .int n
  | none =>
    match l.real? with
    | some x => .real x
    | none => .tooGreat

end NumberLiteral
end PoolIndexer.Json
