import PoolIndexer.Text.Numeral

/-!
Block times: RFC 3339 text as seconds since 1970, and time buckets.
-/
namespace PoolIndexer

/-- The signed 64-bit word with the same low bits. -/
def wrap64 (n : Int) : Int := n.bmod (twoTo 64)

namespace Timestamp

/-- Two decimal digits. -/
def two? : List Char → Option (Nat × List Char)
  | a :: b :: r =>
    if a.isDigit && b.isDigit then some (Numeral.value [a, b], r) else none
  | _ => none

/-- Four decimal digits. -/
def four? (s : List Char) : Option (Nat × List Char) := do
  let (high, r) ← two? s
  let (low, r) ← two? r
  return (100 * high + low, r)

/-- One given character. -/
def skip? (allowed : List Char) : List Char → Option (List Char)
  | c :: r => if allowed.contains c then some r else none
  | [] => none

def isLeap (year : Nat) : Bool := year % 4 == 0 && (year % 100 != 0 || year % 400 == 0)

def daysInMonth (year month : Nat) : Nat :=
  if month = 2 then if isLeap year then 29 else 28
  else if month = 4 ∨ month = 6 ∨ month = 9 ∨ month = 11 then 30
  else 31

/-- The days of a year before a month. -/
def daysBeforeMonth (year month : Nat) : Nat :=
  (List.range (month - 1)).foldl (fun days m => days + daysInMonth year (m + 1)) 0

/-- The days from the first of January of the year 0 to that of another year. -/
def daysBeforeYear (year : Nat) : Nat :=
  365 * year + (year + 3) / 4 - (year + 99) / 100 + (year + 399) / 400

/-- The days from the first of January 1970 to a date; dates before it have negative counts. -/
def dayNumber (year month day : Nat) : Int :=
  (daysBeforeYear year + daysBeforeMonth year month + day : Nat) - (719529 : Int)

/-- A fraction of a second, which is dropped; after the point there is at least one digit. -/
def fraction? : List Char → Option (List Char)
  | '.' :: d :: r => if d.isDigit then some (r.dropWhile Char.isDigit) else none
  | s => some s

/-- The offset from universal time in seconds, up to the end of the text. -/
def offset? : List Char → Option Int
  | ['Z'] => some 0
  | ['z'] => some 0
  | sign :: r => do
    let factor : Int ← if sign = '+' then some 1
      else if sign = '-' ∨ sign = '\u2212' then some (-1) else none
    let (hours, r) ← two? r
    let r ← skip? [':'] r
    let (minutes, r) ← two? r
    if r.isEmpty ∧ hours ≤ 23 ∧ minutes ≤ 59 then
      some (factor * (hours * 3600 + minutes * 60 : Nat))
    else none
  | [] => none

/-- Seconds since 1970 of an RFC 3339 time. A leap second counts as the second before it. -/
def seconds? (s : List Char) : Option Int := do
  let (year, r) ← four? s
  let r ← skip? ['-'] r
  let (month, r) ← two? r
  let r ← skip? ['-'] r
  let (day, r) ← two? r
  let r ← skip? ['T', 't', ' '] r
  let (hour, r) ← two? r
  let r ← skip? [':'] r
  let (minute, r) ← two? r
  let r ← skip? [':'] r
  let (second, r) ← two? r
  let r ← fraction? r
  let offset ← offset? r
  if 1 ≤ month ∧ month ≤ 12 ∧ 1 ≤ day ∧ day ≤ daysInMonth year month
      ∧ hour ≤ 23 ∧ minute ≤ 59 ∧ second ≤ 60 then
    some (dayNumber year month day * 86400
      + (hour * 3600 + minute * 60 + min second 59 : Nat) - offset)
  else none

def parse? (text : String) : Option Int := seconds? text.toList

/-- What is said of a text that is no time. -/
def invalidMessage (text : String) : String := "Invalid block timestamp: " ++ text

/-- The start of the bucket of `interval` seconds that a time falls into; without a positive
interval every second is its own bucket. -/
def bucket (time interval : Int) : Int :=
  if interval ≤ 0 then time else wrap64 (time / interval * interval)

/-- Seconds that one stored candle covers. -/
def candleInterval : Int := 60

def day : Int := 86400

end Timestamp
end PoolIndexer
