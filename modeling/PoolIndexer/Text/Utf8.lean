/-!
Characters out of bytes, by UTF-8. Bytes that belong to no character are kept as such, so that what
reads a text can tell where they matter.
-/
namespace PoolIndexer.Utf8

/-- A character, or a byte that belongs to none. -/
abbrev Symbol := Option Char

/-- The symbols of a text, all of them characters. -/
def ofText (s : String) : List Symbol := s.toList.map some

/-- The symbols that bytes make from a place on. -/
def symbolsFrom (bytes : ByteArray) (i : Nat) : List Symbol :=
  if i < bytes.size then
    match bytes.utf8DecodeChar? i with
    | some c => some c :: symbolsFrom bytes (i + c.utf8Size)
    | none => none :: symbolsFrom bytes (i + 1)
  else []
termination_by bytes.size - i
decreasing_by
  · have := c.utf8Size_pos
    omega
  · omega

/-- The symbols that bytes make. -/
def symbols (bytes : List UInt8) : List Symbol := symbolsFrom ⟨bytes.toArray⟩ 0

end PoolIndexer.Utf8
