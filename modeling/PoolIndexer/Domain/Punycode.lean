import PoolIndexer.Text.Cut

/-!
Reading Punycode, which writes a label of any characters in letters, digits and hyphens.

What stands before the last hyphen are the ASCII characters of the label. After it, numbers say in
turn how far it is from one character that is inserted, and its place, to the next. The digits of a
number are of base 36, the least one first, and its last one is below a threshold that follows the
size of the numbers before.
-/
namespace PoolIndexer.Domain.Punycode

/-- The value of a digit: letters, then figures. -/
def digit? (c : Char) : Option Nat :=
  let c := c.toLower
  if 'a' ≤ c ∧ c ≤ 'z' then some (c.toNat - 'a'.toNat)
  else if '0' ≤ c ∧ c ≤ '9' then some (26 + (c.toNat - '0'.toNat))
  else none

/-- The threshold of the digit at `36 * i` for `place`, between 1 and 26. -/
def threshold (bias place : Nat) : Nat := max 1 (min 26 (place - bias))

/-- A number from the digit at `place` on, which counts `weight` times, and what follows. -/
def number? (bias : Nat) : Nat → Nat → List Char → Option (Nat × List Char)
  | _, _, [] => none
  | place, weight, c :: rest => do
    let d ← digit? c
    let t := threshold bias place
    if d < t then some (d * weight, rest)
    else do
      let (n, rest) ← number? bias (place + 36) (weight * (36 - t)) rest
      some (d * weight + n, rest)

/-- A number has a digit at least. -/
theorem length_of_number? {bias place weight n : Nat} {s r : List Char}
    (h : number? bias place weight s = some (n, r)) : r.length < s.length := by
  induction s generalizing place weight n with
  | nil => simp [number?] at h
  | cons c rest ih =>
    simp only [number?, Option.bind_eq_bind, Option.bind_eq_some_iff] at h
    obtain ⟨d, -, h⟩ := h
    split at h
    · simp only [Option.some.injEq, Prod.mk.injEq] at h
      obtain ⟨-, rfl⟩ := h
      simp
    · obtain ⟨⟨m, r'⟩, hm, h⟩ := Option.bind_eq_some_iff.1 h
      simp only [Option.some.injEq, Prod.mk.injEq] at h
      obtain ⟨-, rfl⟩ := h
      have := ih hm
      simp only [List.length_cons]
      omega

/-- Divides by 35 until a number is at most 455, and gives 36 for each time. -/
def scaleDown (n : Nat) : Nat × Nat :=
  if 455 < n then
    let (m, places) := scaleDown (n / 35)
    (m, places + 36)
  else (n, 0)
termination_by n
decreasing_by exact Nat.div_lt_self (by omega) (by omega)

/-- The bias after a number, with `length` characters present; the first number counts less. -/
def adapted (n length : Nat) (first : Bool) : Nat :=
  let n := if first then n / 700 else n / 2
  let (n, places) := scaleDown (n + n / length)
  places + 36 * n / (n + 38)

/-- Inserts the characters that the numbers of a text stand for. The next one is `code` at least, at
`place` if it is `code` itself. -/
def insertAll (bias code place : Nat) (first : Bool) (label : List Char) (s : List Char) :
    Option (List Char) :=
  if s.isEmpty then some label
  else
    match h : number? bias 36 1 s with
    | none => none
    | some (n, rest) =>
      let length := label.length + 1
      let code := code + (place + n) / length
      let place := (place + n) % length
      if code.isValidChar then
        insertAll (adapted n length first) code (place + 1) false
          (label.insertIdx place (Char.ofNat code)) rest
      else none
termination_by s.length
decreasing_by exact length_of_number? h

/-- The label that a text writes. -/
def decode? (s : List Char) : Option (List Char) :=
  match Text.cutAtLast? '-' s with
  | some (basic@(_ :: _), rest) =>
    if basic.all (·.toNat < 0x80) then insertAll 72 0x80 0 true basic rest else none
  | _ => insertAll 72 0x80 0 true [] s

end PoolIndexer.Domain.Punycode
