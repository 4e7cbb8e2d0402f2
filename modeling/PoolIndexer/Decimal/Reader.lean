import PoolIndexer.Decimal
import PoolIndexer.Text.Blank

/-!
Reading decimals from text such as `0.003`, `-1_000.5` or `15e-1`.
-/
namespace PoolIndexer.Decimal

/-- The mantissa: an integer numeral with at most one point in it. The digits after the point
count into the scale, underscores do not. -/
def mantissa? (s : List Char) : Option Decimal :=
  match s.dropWhile (· != '.') with
  | [] => (Numeral.integer? s).map (⟨·, 0⟩)
  | _ :: fraction =>
    let whole := s.takeWhile (· != '.')
    (Numeral.integer? (whole ++ fraction)).map fun n =>
      ⟨n, (fraction.filter (· != '_')).length⟩

/-- A decimal from text without blanks: a mantissa, and after `e` or `E` an exponent. The scale
fits a signed 64-bit word. -/
def ofText? (s : List Char) : Option Decimal := do
  let isMark := fun c => c == 'e' || c == 'E'
  let exponent ← match s.dropWhile (!isMark ·) with
    | [] => some 0
    | _ :: r => Numeral.int128? r
  let m ← mantissa? (s.takeWhile (!isMark ·))
  let scale := m.scale - exponent
  if -twoTo 63 ≤ scale ∧ scale ≤ twoTo 63 - 1 then some ⟨m.digits, scale⟩ else none

/-- A decimal from text that may have blanks at its ends. -/
def parse? (s : String) : Option Decimal := ofText? (trim s.toList)

end PoolIndexer.Decimal
