import PoolIndexer.Binary64
import PoolIndexer.Text.Numeral

/-!
Reading binary64 numbers from text, rounded once to the nearest.
-/
namespace PoolIndexer.Binary64

def lowercase (s : List Char) : List Char := s.map Char.toLower

/-- A decimal mantissa as its digits and the number of them after the point; at least one digit
is needed, on either side of the point. -/
def mantissa? (s : List Char) : Option (Nat × Nat) :=
  let whole := s.takeWhile Char.isDigit
  let fraction := match s.dropWhile Char.isDigit with
    | [] => some []
    | '.' :: r => if r.all Char.isDigit then some r else none
    | _ => none
  fraction.bind fun f =>
    if whole.isEmpty && f.isEmpty then none else some (Numeral.value (whole ++ f), f.length)

/-- A decimal exponent: an optional sign and at least one digit. -/
def exponent? (s : List Char) : Option Int :=
  let (negative, ds) := Numeral.sign s
  if ds.isEmpty || !ds.all Char.isDigit then none
  else some (Numeral.signed negative (Numeral.value ds))

/-- Text of a number: a sign, then digits with an optional point and exponent, or the names
`inf`, `infinity` and `nan` in any case. -/
def ofText? (s : List Char) : Option Binary64 :=
  let (negative, body) := Numeral.sign s
  if lowercase body = ['i', 'n', 'f'] ∨ lowercase body = "infinity".toList then
    some (infinity negative)
  else if lowercase body = ['n', 'a', 'n'] then some nan
  else
    let isMark := fun c => c == 'e' || c == 'E'
    let exponent := match body.dropWhile (!isMark ·) with
      | [] => some 0
      | _ :: r => exponent? r
    exponent.bind fun e =>
      (mantissa? (body.takeWhile (!isMark ·))).map fun (n, places) =>
        ofDecimal negative n (e - places)

end PoolIndexer.Binary64
