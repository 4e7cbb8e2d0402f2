import PoolIndexer.Asset
import PoolIndexer.Transaction.Error

/-!
Amounts and coin lists in event attributes, such as `100orai, 200ibc/ABC`.
-/
namespace PoolIndexer

/-- An amount as text. Nothing but blanks stands for zero. -/
def parseAmount (text : String) : Except ParseError Int :=
  match trim text.toList with
  | [] => .ok 0
  | s =>
    match Numeral.integer? s with
    | some n => .ok n
    | none => .error (.invalidAmount text)

/-- A coin without blanks at its ends: the leading digits are the amount, the rest is the
denomination. -/
def parseTrimmedCoin (s : List Char) : Except ParseError Coin :=
  let amount := s.takeWhile Char.isDigit
  let denom := s.dropWhile Char.isDigit
  if amount.isEmpty || denom.isEmpty then .error (.invalidCoin (String.ofList s))
  else .ok ⟨String.ofList denom, Numeral.value amount⟩

def parseCoin (text : String) : Except ParseError Coin := parseTrimmedCoin (trim text.toList)

/-- The parts of a text between commas. -/
def splitCommas : List Char → List (List Char)
  | [] => [[]]
  | c :: r =>
    if c = ',' then [] :: splitCommas r
    else
      match splitCommas r with
      | part :: parts => (c :: part) :: parts
      | [] => [[c]]

/-- Coins divided by commas; blank parts are skipped. -/
def parseCoinList (text : String) : Except ParseError (List Coin) :=
  (((splitCommas text.toList).map trim).filter (!·.isEmpty)).mapM parseTrimmedCoin

end PoolIndexer
