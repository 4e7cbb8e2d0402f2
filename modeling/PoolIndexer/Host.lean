import PoolIndexer.Domain
import PoolIndexer.Power
import PoolIndexer.Text.Percent

/-!
Hosts of web addresses: domains, addresses of four bytes, and addresses of eight groups in brackets.
Schemes that are not of the web admit other texts too.
-/
namespace PoolIndexer.Host

/-! ## Addresses of four bytes -/

/-- The value of a number in a host: decimal, octal after a zero, hexadecimal after `0x`. -/
def number? (s : List Char) : Option Nat :=
  let number := fun (base : Nat) (ds : List Char) =>
    ds.foldlM (fun n c => do
      let d ← Numeral.hexValue? c
      if d < base then some (n * base + d) else none) 0
  match s with
  | [] => none
  | '0' :: 'x' :: ds => number 16 ds
  | '0' :: 'X' :: ds => number 16 ds
  | '0' :: ds => number 8 ds
  | ds => number 10 ds

/-- Numbers between points are an address of four bytes, of which the last may stand for several. -/
def isByteAddress (parts : List (List Char)) : Bool :=
  match parts.mapM number? with
  | none => false
  | some numbers =>
    decide (numbers.length ≤ 4) && numbers.dropLast.all (· ≤ 255)
      && decide (numbers.getLastD 0 < twoTo (8 * (5 - numbers.length)))

/-- The labels of a domain, less an empty one at its end. -/
def withoutRoot (labels : List (List Char)) : List (List Char) :=
  if labels.getLast? = some [] ∧ 1 < labels.length then labels.dropLast else labels

/-- The last label looks like a number. -/
def endsInNumber (labels : List (List Char)) : Bool :=
  let last := labels.getLastD []
  (!last.isEmpty && last.all Char.isDigit) || (number? last).isSome

/-- A domain whose last label looks like a number has to be an address of four bytes. -/
def isDomain (labels : List (List Char)) : Bool :=
  labels != [[]] && (!endsInNumber (withoutRoot labels) || isByteAddress (withoutRoot labels))

/-! ## Addresses of eight groups -/

/-- What stands before and after the first two colons in a row. -/
def gap? : List Char → Option (List Char × List Char)
  | ':' :: ':' :: rest => some ([], rest)
  | c :: rest => (gap? rest).map fun (before, after) => (c :: before, after)
  | [] => none

/-- One to four hexadecimal digits. -/
def isGroup (s : List Char) : Bool :=
  !s.isEmpty && decide (s.length ≤ 4) && s.all (Numeral.hexValue? · |>.isSome)

/-- Four bytes in decimal digits without leading zeros, divided by points. -/
def isFourBytes (s : List Char) : Bool :=
  let parts := Text.splitAt (· == '.') s
  decide (parts.length = 4) && parts.all fun ds =>
    !ds.isEmpty && ds.all Char.isDigit && (ds.head? != some '0' || ds == ['0'])
      && decide (Numeral.value ds ≤ 255)

/-- The number of groups between colons. -/
def groups? (s : List Char) : Option Nat :=
  let parts := Text.splitAt (· == ':') s
  if s.isEmpty then some 0 else if parts.all isGroup then some parts.length else none

/-- The number of groups between colons, where four bytes at the end count as two groups. -/
def groupsWithBytes? (s : List Char) : Option Nat :=
  let parts := Text.splitAt (· == ':') s
  if isFourBytes (parts.getLastD []) && parts.dropLast.all isGroup then some (parts.length + 1)
  else groups? s

/-- An address of eight groups, of which a gap may stand for one or more. -/
def isGroupAddress (s : List Char) : Bool :=
  match gap? s with
  | some (before, after) =>
    match groups? before, groupsWithBytes? after with
    | some a, some b => decide (a + b ≤ 7)
    | _, _ => false
  | none => groupsWithBytes? s == some 8

/-- What stands in brackets, if a text starts with one and ends with the other. -/
def bracketed? (s : List Char) : Option (List Char) :=
  if s.getLast? = some ']' then some (s.drop 1).dropLast else none

/-! ## All hosts -/

/-- A host for the schemes of the web. Percent encoding is read before anything else. -/
def isWebHost (s : List Char) : Bool :=
  if s.head? = some '[' then (bracketed? s).any isGroupAddress
  else
    match String.fromUTF8? ⟨(Percent.decode s).toArray⟩ with
    | some name => (Domain.labels? name.toList).any isDomain
    | none => false

/-- Characters that no host may hold. -/
def isForbidden (c : Char) : Bool :=
  c == '\x00' || "\t\n\r #/:<>?@[\\]^|".toList.contains c

/-- A host for other schemes. -/
def isPlainHost (s : List Char) : Bool :=
  if s.head? = some '[' then (bracketed? s).any isGroupAddress else !s.any isForbidden

end PoolIndexer.Host
