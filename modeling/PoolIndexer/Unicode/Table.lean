import PoolIndexer.Text.Blank
import PoolIndexer.Text.Cut
import PoolIndexer.Text.Numeral

/-!
Tables of code points, written as text: blanks stand between the entries, and commas between the
numbers of an entry, which are hexadecimal.
-/
namespace PoolIndexer.Unicode

/-- The number that hexadecimal digits write. -/
def number (ds : List Char) : Nat :=
  ds.foldl (fun n d => 16 * n + (Numeral.hexValue? d).getD 0) 0

/-- The entries of a table. -/
def entries (table : String) : List (List Nat) :=
  ((Text.splitAt isBlank table.toList).filter (!·.isEmpty)).map fun entry =>
    (Text.splitAt (· == ',') entry).map number

/-- A run of code points by its first and its last one. -/
abbrev Run := Nat × Nat

/-- The runs of a table; a run of one code point is written as a single number. -/
def runTable (table : String) : List Run :=
  (entries table).filterMap fun
    | [only] => some (only, only)
    | [first, last] => some (first, last)
    | _ => none

/-- The character stands in one of the runs. -/
def inRuns (table : List Run) (c : Char) : Bool :=
  table.any fun (first, last) => first ≤ c.toNat && c.toNat ≤ last

/-- The characters that the numbers of an entry stand for. -/
def chars (entry : List Nat) : List Char := entry.map Char.ofNat

end PoolIndexer.Unicode
