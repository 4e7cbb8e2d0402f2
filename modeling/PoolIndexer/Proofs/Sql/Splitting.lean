import Mathlib.Algebra.Group.Nat.Even
import Mathlib.Data.List.DropRight
import PoolIndexer.Sql.Script

/-!
The statements of a script by the bytes of its text. The text is cut at the semicolons that have an
even number of dollar-quote marks before them, and nowhere else; every cut falls between two
characters, and the pieces with the semicolons between them are the text again. A scan that reads
the bytes by place, with one byte of lookahead, comes to its end over any bytes and finds the same
pieces.
-/
namespace PoolIndexer.Sql

/-! ## Texts as bytes -/

/-- The bytes of a text. -/
def textBytes (text : List Char) : List UInt8 := (String.ofList text).toUTF8.data.toList

theorem textBytes_eq (text : List Char) : textBytes text = text.flatMap String.utf8EncodeChar := by
  simp [textBytes, String.toUTF8, List.utf8Encode]

@[simp] theorem textBytes_nil : textBytes [] = [] := by simp [textBytes_eq]

theorem textBytes_cons (c : Char) (rest : List Char) :
    textBytes (c :: rest) = String.utf8EncodeChar c ++ textBytes rest := by
  simp [textBytes_eq]

@[simp] theorem textBytes_append (front back : List Char) :
    textBytes (front ++ back) = textBytes front ++ textBytes back := by
  simp [textBytes_eq]

def dollar : UInt8 := 0x24

def semicolon : UInt8 := 0x3b

@[simp] theorem textBytes_dollar (rest : List Char) :
    textBytes ('$' :: rest) = dollar :: textBytes rest := by
  rw [textBytes_cons]
  rfl

@[simp] theorem textBytes_semicolon (rest : List Char) :
    textBytes (';' :: rest) = semicolon :: textBytes rest := by
  rw [textBytes_cons]
  rfl

/-- A character is one byte of the lower half or several of the upper one. -/
theorem utf8EncodeChar_cases (c : Char) :
    (c.toNat < 128 ∧ String.utf8EncodeChar c = [UInt8.ofNat c.toNat]) ∨
      128 ≤ c.toNat ∧ ∀ b ∈ String.utf8EncodeChar c, 128 ≤ b.toNat := by
  have upper : ∀ n, 128 ≤ n → n < 256 → 128 ≤ (UInt8.ofNat n).toNat := by
    intro n low high
    rw [UInt8.toNat_ofNat', Nat.mod_eq_of_lt (by omega)]
    exact low
  unfold String.utf8EncodeChar
  dsimp only
  split
  · rename_i one
    exact .inl ⟨Nat.lt_succ_of_le one, rfl⟩
  · rename_i more
    refine .inr ⟨not_le.mp more, ?_⟩
    split <;> [skip; split] <;>
    · intro b member
      simp only [List.mem_cons, List.not_mem_nil, or_false] at member
      rcases member with rfl | rfl | rfl | rfl <;> exact upper _ (by omega) (by omega)

/-- A byte of the lower half is no part of any other character. -/
theorem eq_of_mem_utf8EncodeChar {c d : Char} (low : d.toNat < 128)
    (member : UInt8.ofNat d.toNat ∈ String.utf8EncodeChar c) : c = d := by
  have same : (UInt8.ofNat d.toNat).toNat = d.toNat := by
    rw [UInt8.toNat_ofNat', Nat.mod_eq_of_lt (by omega)]
  rcases utf8EncodeChar_cases c with ⟨ascii, one⟩ | ⟨-, upper⟩
  · rw [one, List.mem_singleton] at member
    have codes := congrArg UInt8.toNat member
    rw [same, UInt8.toNat_ofNat', Nat.mod_eq_of_lt (by omega)] at codes
    exact Char.toNat_inj.mp codes.symm
  · have high := upper _ member
    omega

/-! ## The places of the cuts -/

/-- The dollar-quote marks among bytes read from the left. Marks do not overlap. -/
def marks : List UInt8 → Nat
  | [] => 0
  | [_] => 0
  | a :: b :: rest => if a = dollar ∧ b = dollar then marks rest + 1 else marks (b :: rest)

/-- The places of the semicolons that have an even number of marks before them; `quoted` counts as
one more. -/
def cuts (quoted : Bool) (bytes : List UInt8) : List Nat :=
  (List.range bytes.length).filter fun place =>
    bytes[place]? = some semicolon ∧ Even (marks (bytes.take place) + quoted.toNat)

/-- The parts of bytes from a place on that stand between the given places, less the byte at each of
them. -/
def between (bytes : List UInt8) : Nat → List Nat → List (List UInt8)
  | start, [] => [bytes.drop start]
  | start, place :: places => (bytes.take place).drop start :: between bytes (place + 1) places

/-- The parts between the cuts. -/
def split (quoted : Bool) (bytes : List UInt8) : List (List UInt8) :=
  between bytes 0 (cuts quoted bytes)

/-- Puts a front on the first part. -/
def glue {α : Type} (front : List α) : List (List α) → List (List α)
  | [] => [front]
  | part :: rest => (front ++ part) :: rest

@[simp] theorem glue_glue {α : Type} (front next : List α) (parts : List (List α)) :
    glue front (glue next parts) = glue (front ++ next) parts := by
  cases parts with
  | nil => rfl
  | cons part rest => simp [glue]

theorem glue_nil {α : Type} {parts : List (List α)} (present : parts ≠ []) :
    glue [] parts = parts := by
  cases parts with
  | nil => exact absurd rfl present
  | cons part rest => rfl

theorem split_ne_nil (quoted : Bool) (bytes : List UInt8) : split quoted bytes ≠ [] := by
  unfold split
  cases cuts quoted bytes <;> simp [between]

theorem between_cons (b : UInt8) (bytes : List UInt8) (start : Nat) (places : List Nat) :
    between (b :: bytes) (start + 1) (places.map (· + 1)) = between bytes start places := by
  induction places generalizing start with
  | nil => rfl
  | cons place rest ih => simp [between, ih]

theorem between_front (b : UInt8) (bytes : List UInt8) (places : List Nat) :
    between (b :: bytes) 0 (places.map (· + 1)) = glue [b] (between bytes 0 places) := by
  cases places with
  | nil => rfl
  | cons place rest => simp [between, glue, between_cons]

/-! ## Reading the bytes from the front -/

theorem marks_skip {b : UInt8} {rest : List UInt8}
    (unmarked : ¬ (b = dollar ∧ rest.head? = some dollar)) : marks (b :: rest) = marks rest := by
  cases rest with
  | nil => rfl
  | cons next rest =>
    rw [marks, if_neg]
    simpa using unmarked

theorem marks_mark (rest : List UInt8) : marks (dollar :: dollar :: rest) = marks rest + 1 := by
  rw [marks, if_pos ⟨rfl, rfl⟩]

theorem split_nil (quoted : Bool) : split quoted [] = [[]] := rfl

/-- The cuts behind the first byte, counted from the second one on. -/
theorem cuts_cons (quoted : Bool) (b : UInt8) (rest : List UInt8) :
    cuts quoted (b :: rest) =
      (if b = semicolon ∧ quoted = false then [0] else []) ++
        ((List.range rest.length).filter fun place =>
          rest[place]? = some semicolon ∧
            Even (marks (b :: rest.take place) + quoted.toNat)).map (· + 1) := by
  have front : Even quoted.toNat ↔ quoted = false := by cases quoted <;> simp
  rw [cuts, List.length_cons, List.range_succ_eq_map, List.filter_cons, List.filter_map]
  simp only [List.getElem?_cons_zero, Option.some.injEq, List.take_zero, marks, Nat.zero_add,
    front, decide_eq_true_eq]
  split <;> rfl

/-- A byte that begins no mark moves the cuts behind it by one, and is one itself if it is a
semicolon that is not quoted. -/
theorem cuts_skip {quoted : Bool} {b : UInt8} {rest : List UInt8}
    (unmarked : ¬ (b = dollar ∧ rest.head? = some dollar)) :
    cuts quoted (b :: rest) =
      (if b = semicolon ∧ quoted = false then [0] else []) ++ (cuts quoted rest).map (· + 1) := by
  have counted : ∀ place, marks (b :: rest.take place) = marks (rest.take place) := by
    intro place
    apply marks_skip
    cases place with
    | zero => simp
    | succ place => simpa [List.head?_take] using unmarked
  rw [cuts_cons]
  simp only [counted]
  rfl

/-- A mark moves the cuts behind it by two, and they are those of the other state. -/
theorem cuts_mark (quoted : Bool) (rest : List UInt8) :
    cuts quoted (dollar :: dollar :: rest) = ((cuts (!quoted) rest).map (· + 1)).map (· + 1) := by
  have toggled : ∀ place, Even (marks (dollar :: dollar :: rest.take place) + quoted.toNat) ↔
      Even (marks (rest.take place) + (!quoted).toNat) := by
    intro place
    rw [marks_mark]
    cases quoted <;> simp [Nat.even_add_one, add_assoc]
  have plain : dollar ≠ semicolon := by decide
  rw [cuts_cons, if_neg fun same => plain same.1, List.nil_append, List.length_cons,
    List.range_succ_eq_map, List.filter_cons, List.filter_map]
  simp [plain, cuts, Function.comp_def, toggled]

theorem split_mark (quoted : Bool) (rest : List UInt8) :
    split quoted (dollar :: dollar :: rest) = glue [dollar, dollar] (split (!quoted) rest) := by
  rw [split, cuts_mark, between_front, between_front, glue_glue]
  rfl

theorem split_cut (rest : List UInt8) :
    split false (semicolon :: rest) = [] :: split false rest := by
  rw [split, cuts_skip (by simp [semicolon, dollar]), if_pos ⟨rfl, rfl⟩, List.singleton_append,
    between, between_cons]
  rfl

theorem split_skip {quoted : Bool} {b : UInt8} {rest : List UInt8}
    (unmarked : ¬ (b = dollar ∧ rest.head? = some dollar))
    (uncut : ¬ (b = semicolon ∧ quoted = false)) :
    split quoted (b :: rest) = glue [b] (split quoted rest) := by
  rw [split, cuts_skip unmarked, if_neg uncut, List.nil_append, between_front]
  rfl

/-- Bytes of the upper half belong to the part they stand in. -/
theorem split_upper (quoted : Bool) {front : List UInt8} (upper : ∀ b ∈ front, 128 ≤ b.toNat)
    (rest : List UInt8) : split quoted (front ++ rest) = glue front (split quoted rest) := by
  induction front with
  | nil => exact (glue_nil (split_ne_nil _ _)).symm
  | cons b front ih =>
    have high := upper b List.mem_cons_self
    rw [List.cons_append, split_skip, ih fun b member => upper b (List.mem_cons_of_mem _ member),
      glue_glue]
    · rfl
    · rintro ⟨rfl, -⟩
      exact absurd high (by decide)
    · rintro ⟨rfl, -⟩
      exact absurd high (by decide)

/-! ## The pieces of a text -/

theorem prependChar_eq (c : Char) (parts : List (List Char)) :
    prependChar c parts = glue [c] parts := by
  cases parts <;> rfl

theorem map_glue (front : List Char) (parts : List (List Char)) :
    (glue front parts).map textBytes = glue (textBytes front) (parts.map textBytes) := by
  cases parts <;> simp [glue]

theorem intercalate_glue (separator front : List Char) (parts : List (List Char)) :
    separator.intercalate (glue front parts) = front ++ separator.intercalate parts := by
  match parts with
  | [] => simp [glue]
  | [part] => simp [glue]
  | part :: next :: rest => simp [glue, List.intercalate_cons_cons]

theorem dollar_of_head {text : List Char} (first : (textBytes text).head? = some dollar) :
    ∃ rest, text = '$' :: rest := by
  cases text with
  | nil => simp at first
  | cons c rest =>
    rw [textBytes_cons, List.head?_append_of_ne_nil _ String.utf8EncodeChar_ne_nil] at first
    exact ⟨rest, by rw [eq_of_mem_utf8EncodeChar (d := '$') (by decide) (List.mem_of_head? first)]⟩

/-- The bytes of the pieces are the parts of the bytes between the cuts. -/
theorem pieces_bytes (quoted : Bool) (text : List Char) :
    (pieces quoted text).map textBytes = split quoted (textBytes text) := by
  fun_induction pieces quoted text with
  | case1 quoted => simp [split_nil]
  | case2 quoted rest ih =>
    simp only [prependChar_eq, glue_glue, List.singleton_append, map_glue, ih, textBytes_dollar,
      textBytes_nil, split_mark]
  | case3 rest ih =>
    rw [prependChar_eq, map_glue, ih, textBytes_semicolon, textBytes_semicolon, textBytes_nil,
      split_skip (by simp [semicolon, dollar]) (by simp)]
  | case4 quoted rest unquoted ih =>
    obtain rfl : quoted = false := by simpa using unquoted
    rw [List.map_cons, ih, textBytes_nil, textBytes_semicolon, split_cut]
  | case5 quoted c rest unmarked uncut ih =>
    rw [prependChar_eq, map_glue, ih, textBytes_cons, textBytes_cons, textBytes_nil,
      List.append_nil]
    rcases utf8EncodeChar_cases c with ⟨-, one⟩ | ⟨-, upper⟩
    -- what the only byte of a character begins or ends, the character does
    · rw [one, List.singleton_append, split_skip]
      · rintro ⟨sign, next⟩
        obtain ⟨behind, rfl⟩ := dollar_of_head next
        refine unmarked behind (eq_of_mem_utf8EncodeChar (by decide) ?_) rfl
        simp [one, sign, dollar]
      · rintro ⟨sign, -⟩
        apply uncut (eq_of_mem_utf8EncodeChar (by decide) ?_)
        simp [one, sign, semicolon]
    · exact (split_upper quoted upper _).symm

theorem pieces_ne_nil (quoted : Bool) (text : List Char) : pieces quoted text ≠ [] := by
  intro none
  have parts := pieces_bytes quoted text
  rw [none] at parts
  exact split_ne_nil _ _ parts.symm

/-- The pieces with the semicolons between them are the text again. -/
theorem pieces_joined (quoted : Bool) (text : List Char) :
    [';'].intercalate (pieces quoted text) = text := by
  fun_induction pieces quoted text with
  | case1 => rfl
  | case2 quoted rest ih => simp [prependChar_eq, intercalate_glue, ih]
  | case3 rest ih => simp [prependChar_eq, intercalate_glue, ih]
  | case4 quoted rest unquoted ih =>
    rw [List.intercalate_cons_of_ne_nil (pieces_ne_nil _ _), ih]
    rfl
  | case5 quoted c rest unmarked uncut ih => simp [prependChar_eq, intercalate_glue, ih]

/-- Where a semicolon stands among the bytes of a text, it stands among its characters. -/
theorem semicolon_boundary {text : List Char} {place : Nat}
    (found : (textBytes text)[place]? = some semicolon) :
    ∃ before after, text = before ++ ';' :: after ∧ (textBytes before).length = place := by
  induction text generalizing place with
  | nil => simp at found
  | cons c rest ih =>
    rw [textBytes_cons] at found
    by_cases inside : place < (String.utf8EncodeChar c).length
    · rw [List.getElem?_append_left inside] at found
      obtain rfl := eq_of_mem_utf8EncodeChar (d := ';') (by decide) (List.mem_of_getElem? found)
      obtain rfl : place = 0 := Nat.lt_one_iff.mp inside
      exact ⟨[], rest, rfl, rfl⟩
    · rw [List.getElem?_append_right (not_lt.mp inside)] at found
      obtain ⟨before, after, rfl, length⟩ := ih found
      refine ⟨c :: before, after, rfl, ?_⟩
      rw [textBytes_cons, List.length_append, length]
      omega

/-! ## The scan -/

/-- How far a scan of bytes has come: the place it reads next, where the part it stands in starts,
whether that is quoted, and the parts that have ended. -/
structure Scan where
  place : Nat
  start : Nat
  quoted : Bool
  found : List (List UInt8)
  deriving DecidableEq, Repr

namespace Scan

def begin : Scan := ⟨0, 0, false, []⟩

/-- One step: over a mark, past a semicolon that ends the part, or over any other byte. -/
def next? (bytes : List UInt8) (s : Scan) : Option Scan :=
  (bytes[s.place]?).map fun b =>
    if b = dollar ∧ bytes[s.place + 1]? = some dollar then
      { s with place := s.place + 2, quoted := !s.quoted }
    else if b = semicolon ∧ s.quoted = false then
      { s with
        place := s.place + 1
        start := s.place + 1
        found := s.found ++ [(bytes.take s.place).drop s.start] }
    else { s with place := s.place + 1 }

/-- So many steps, or fewer where the scan ends before. -/
def run (bytes : List UInt8) : Nat → Scan → Scan
  | 0, s => s
  | steps + 1, s =>
    match s.next? bytes with
    | some t => run bytes steps t
    | none => s

/-- The parts once the scan has ended: the last one goes to the end of the bytes. -/
def parts (bytes : List UInt8) (s : Scan) : List (List UInt8) := s.found ++ [bytes.drop s.start]

/-- What has been read of the current part, put in front of what the rest will be cut to, completes
the parts that have ended. -/
structure Invariant (bytes : List UInt8) (s : Scan) : Prop where
  inside : s.place ≤ bytes.length
  begun : s.start ≤ s.place
  completes : s.found ++ glue ((bytes.take s.place).drop s.start)
    (split s.quoted (bytes.drop s.place)) = split false bytes

theorem begin_invariant (bytes : List UInt8) : begin.Invariant bytes :=
  ⟨Nat.zero_le _, le_rfl, by simp [begin, glue_nil (split_ne_nil _ _)]⟩

theorem drop_eq_cons {bytes : List UInt8} {place : Nat} {b : UInt8}
    (next : bytes[place]? = some b) : bytes.drop place = b :: bytes.drop (place + 1) := by
  obtain ⟨inside, rfl⟩ := List.getElem?_eq_some_iff.mp next
  exact List.drop_eq_getElem_cons inside

theorem take_succ_drop {bytes : List UInt8} {place start : Nat} {b : UInt8}
    (begun : start ≤ place) (next : bytes[place]? = some b) :
    (bytes.take (place + 1)).drop start = (bytes.take place).drop start ++ [b] := by
  obtain ⟨inside, -⟩ := List.getElem?_eq_some_iff.mp next
  rw [List.take_add_one, next, Option.toList_some, List.drop_append_of_le_length]
  rw [List.length_take]
  omega

/-- Every step goes on and keeps the invariant. -/
theorem next_invariant {bytes : List UInt8} {s t : Scan} (valid : s.Invariant bytes)
    (step : s.next? bytes = some t) : t.Invariant bytes ∧ s.place < t.place := by
  obtain ⟨b, next, rfl⟩ := Option.map_eq_some_iff.mp step
  obtain ⟨inside, -⟩ := List.getElem?_eq_some_iff.mp next
  have begun := valid.begun
  have completes := valid.completes
  rw [drop_eq_cons next] at completes
  split
  · rename_i mark
    obtain ⟨rfl, second⟩ := mark
    obtain ⟨within, -⟩ := List.getElem?_eq_some_iff.mp second
    rw [drop_eq_cons second, split_mark, glue_glue] at completes
    -- the part takes both bytes of the mark, and the rest is cut in the other state
    refine ⟨⟨within, Nat.le_add_right_of_le begun, ?_⟩, Nat.lt_add_of_pos_right (by decide)⟩
    rw [take_succ_drop (Nat.le_succ_of_le begun) second, take_succ_drop begun next,
      List.append_assoc]
    exact completes
  · rename_i unmarked
    split
    · rename_i cut
      obtain ⟨rfl, unquoted⟩ := cut
      rw [unquoted, split_cut] at completes
      refine ⟨⟨inside, le_rfl, ?_⟩, Nat.lt_succ_self _⟩
      rw [unquoted, List.drop_take_self, glue_nil (split_ne_nil _ _)]
      simpa [glue] using completes
    · rename_i uncut
      rw [split_skip (by rwa [List.head?_drop]) uncut, glue_glue] at completes
      refine ⟨⟨inside, Nat.le_succ_of_le begun, ?_⟩, Nat.lt_succ_self _⟩
      rw [take_succ_drop begun next]
      exact completes

/-- With as many steps as there are bytes left the scan comes to its end, and keeps its
invariant. -/
theorem run_invariant {bytes : List UInt8} {s : Scan} (valid : s.Invariant bytes) {steps : Nat}
    (enough : bytes.length ≤ s.place + steps) :
    (s.run bytes steps).Invariant bytes ∧ (s.run bytes steps).next? bytes = none := by
  induction steps generalizing s with
  | zero => exact ⟨valid, by simpa [run, next?] using enough⟩
  | succ steps ih =>
    unfold run
    split
    · rename_i t step
      obtain ⟨kept, further⟩ := next_invariant valid step
      exact ih kept (by omega)
    · rename_i ended
      exact ⟨valid, ended⟩

/-- At the end of the bytes the parts found are all there are. -/
theorem parts_eq {bytes : List UInt8} {s : Scan} (valid : s.Invariant bytes)
    (ended : s.next? bytes = none) : s.parts bytes = split false bytes := by
  have past : bytes.length ≤ s.place := by simpa [next?] using ended
  have completes := valid.completes
  rw [List.drop_eq_nil_of_le past, List.take_of_length_le past, split_nil] at completes
  simpa [parts, glue] using completes

end Scan

/-- Trimming leaves nothing of a text just where it has nothing but blanks. -/
theorem trim_eq_nil {s : List Char} : trim s = [] ↔ s.all isBlank = true :=
  calc trim s = [] ↔ ∀ c ∈ s.dropWhile isBlank, isBlank c = true := List.rdropWhile_eq_nil_iff
    _ ↔ (s.dropWhile isBlank).dropWhile isBlank = [] := List.dropWhile_eq_nil_iff.symm
    _ ↔ s.dropWhile isBlank = [] := by rw [List.dropWhile_idempotent]
    _ ↔ s.all isBlank = true := by rw [List.dropWhile_eq_nil_iff, List.all_eq_true]

theorem mem_cuts {bytes : List UInt8} {place : Nat} :
    place ∈ cuts false bytes ↔
      bytes[place]? = some semicolon ∧ Even (marks (bytes.take place)) := by
  simp only [cuts, List.mem_filter, List.mem_range, Bool.toNat_false, Nat.add_zero,
    decide_eq_true_eq, and_iff_right_iff_imp]
  rintro ⟨found, -⟩
  exact (List.getElem?_eq_some_iff.mp found).1

/-- The statements of a script are the pieces that are not blank of its text, cut at the semicolons
that have an even number of dollar-quote marks before them. All the pieces with the semicolons
between them are the text again, and every cut stands between two characters. A scan of the bytes
by place finds these pieces and ends on every text, in no more steps than it has bytes. -/
theorem statements_cut (script : List Char) :
    statements script = (pieces false script).filter (fun piece => trim piece ≠ []) ∧
    (pieces false script).map textBytes =
      between (textBytes script) 0 (cuts false (textBytes script)) ∧
    (∀ place, place ∈ cuts false (textBytes script) ↔
      (textBytes script)[place]? = some semicolon ∧ Even (marks ((textBytes script).take place))) ∧
    [';'].intercalate (pieces false script) = script ∧
    (∀ place ∈ cuts false (textBytes script),
      ∃ before after, script = before ++ ';' :: after ∧ (textBytes before).length = place) ∧
    (Scan.begin.run (textBytes script) (textBytes script).length).next? (textBytes script) = none ∧
    (Scan.begin.run (textBytes script) (textBytes script).length).parts (textBytes script) =
      (pieces false script).map textBytes := by
  have parts := pieces_bytes false script
  obtain ⟨kept, ended⟩ :=
    Scan.run_invariant (Scan.begin_invariant (textBytes script)) (Nat.le_add_left _ _)
  refine ⟨?_, parts, fun place => mem_cuts, pieces_joined false script, ?_, ended, ?_⟩
  · refine List.filter_congr fun piece _ => ?_
    rw [Bool.eq_iff_iff, decide_eq_true_iff, Ne, trim_eq_nil, Bool.not_eq_true', Bool.not_eq_true]
  · intro place member
    exact semicolon_boundary (mem_cuts.mp member).1
  · rw [parts, Scan.parts_eq kept ended]

/-- A text with a body that is never closed and a lone dollar sign at its end. The semicolon at
place 10 has two marks before it and ends a statement; those in the bodies have odd numbers of them
and do not. -/
theorem statements_cut_unclosed :
    statements "a;$$b;é$$; ;$$$;$".toList =
      ["a".toList, "$$b;é$$".toList, "$$$;$".toList] ∧
    (∃ before after, "a;$$b;é$$; ;$$$;$".toList = before ++ ';' :: after ∧
      (textBytes before).length = 10) ∧
    [';'].intercalate (pieces false "a;$$b;é$$; ;$$$;$".toList) = "a;$$b;é$$; ;$$$;$".toList := by
  obtain ⟨-, -, cut, joined, boundary, -⟩ := statements_cut "a;$$b;é$$; ;$$$;$".toList
  exact ⟨by decide, boundary 10 ((cut 10).mpr (by decide)), joined⟩

end PoolIndexer.Sql
