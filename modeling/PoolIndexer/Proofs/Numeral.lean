import PoolIndexer.Text.Blank
import PoolIndexer.Text.Numeral

/-! Integers written as text are read back as they were, also from before a hyphen, and each is
written in one way only. -/
namespace PoolIndexer

theorem trim_of_plain {s : List Char} (plain : ∀ c ∈ s, isBlank c = false) : trim s = s := by
  have forwards : s.dropWhile isBlank = s := by
    cases s with
    | nil => rfl
    | cons c rest => simp [plain c List.mem_cons_self]
  have backwards : s.reverse.dropWhile isBlank = s.reverse := by
    cases reversed : s.reverse with
    | nil => rfl
    | cons c rest =>
      have member : c ∈ s := by
        rw [← List.mem_reverse, reversed]
        exact List.mem_cons_self
      simp [plain c member]
  unfold trim
  rw [forwards, backwards, List.reverse_reverse]

namespace Numeral

theorem value_digits (n : Nat) : value (digits n) = n := by
  have read := Nat.ofDigitChars_ten_toDigits (n := n)
  rwa [Nat.ofDigitChars_eq_foldl] at read

theorem isDigit_of_mem_digits {n : Nat} {c : Char} (member : c ∈ digits n) : c.isDigit :=
  Nat.isDigit_of_mem_toDigits (by decide) (by decide) member

theorem digits_ne_nil (n : Nat) : digits n ≠ [] := Nat.toDigits_ne_nil

theorem not_blank_of_isDigit {c : Char} (digit : c.isDigit) : isBlank c = false := by
  simp only [Char.isDigit, Bool.and_eq_true, decide_eq_true_eq] at digit
  have lower : 48 ≤ c.toNat := UInt32.le_iff_toNat_le.mp digit.1
  have upper : c.toNat ≤ 57 := UInt32.le_iff_toNat_le.mp digit.2
  simp only [isBlank, Bool.or_eq_false_iff, Bool.and_eq_false_iff, decide_eq_false_iff_not,
    beq_eq_false_iff_ne]
  omega

theorem natural?_digits (n : Nat) : natural? (digits n) = some n := by
  cases written : digits n with
  | nil => exact absurd written (digits_ne_nil n)
  | cons d rest =>
    have all : ∀ c ∈ d :: rest, c.isDigit := by
      intro c member
      rw [← written] at member
      exact isDigit_of_mem_digits member
    have kept : rest.filter (· != '_') = rest := by
      rw [List.filter_eq_self]
      intro c member
      have digit := all c (List.mem_cons_of_mem _ member)
      simp only [bne_iff_ne]
      rintro rfl
      simp at digit
    have digits : rest.all Char.isDigit = true := by
      rw [List.all_eq_true]
      exact fun c member => all c (List.mem_cons_of_mem _ member)
    have read : value (d :: rest) = n := by rw [← written, value_digits]
    simp [natural?, kept, digits, all d List.mem_cons_self, read]

theorem sign_digits (n : Nat) : sign (digits n) = (false, digits n) := by
  cases written : digits n with
  | nil => rfl
  | cons d rest =>
    have digit : d.isDigit := isDigit_of_mem_digits (n := n) (by simp [written])
    unfold sign
    split
    · rename_i same
      cases same
      simp at digit
    · rename_i same
      cases same
      simp at digit
    · rfl

theorem integer?_ofInt (n : Int) : integer? (ofInt n) = some n := by
  unfold ofInt
  by_cases negative : n < 0
  · have value : -(n.natAbs : Int) = n := by omega
    simp only [negative, if_true, integer?, sign, natural?_digits, Option.map_some, signed, value]
  · have value : (n.natAbs : Int) = n := by omega
    simp only [negative, if_false, integer?, sign_digits, natural?_digits, Option.map_some, signed,
      Bool.false_eq_true, value]

theorem trim_ofInt (n : Int) : trim (ofInt n) = ofInt n := by
  refine trim_of_plain fun c member => ?_
  unfold ofInt at member
  split at member
  · rcases List.mem_cons.mp member with rfl | digit
    · decide
    · exact not_blank_of_isDigit (isDigit_of_mem_digits digit)
  · exact not_blank_of_isDigit (isDigit_of_mem_digits member)

/-- An amount as text is read back as it was. -/
theorem integer?_text (n : Int) : integer? (trim (text n).toList) = some n := by
  unfold text
  rw [String.toList_ofList, trim_ofInt, integer?_ofInt]

theorem text_inj {n m : Int} (same : text n = text m) : n = m := by
  have read := integer?_text n
  rw [same, integer?_text] at read
  exact (Option.some.inj read).symm

/-! ## Canonical numerals -/

/-- A zero, or digits of which the first is none, after a minus sign or not. -/
def Canonical (s : List Char) : Prop :=
  s = ['0'] ∨ ∃ d rest, (s = d :: rest ∨ s = '-' :: d :: rest) ∧ d ≠ '0' ∧
    ∀ c ∈ d :: rest, c.isDigit = true

theorem digits_head {n : Nat} (positive : 0 < n) : ∃ d rest, digits n = d :: rest ∧ d ≠ '0' := by
  induction n using Nat.strongRecOn with
  | ind n ih =>
    unfold digits at ih ⊢
    by_cases single : n < 10
    · have digit : ∀ m < 10, 0 < m → Nat.digitChar m ≠ '0' := by decide
      exact ⟨_, [], Nat.toDigits_of_lt_base single, digit n single positive⟩
    · obtain ⟨d, rest, leading, nonzero⟩ := ih (n / 10) (by omega) (by omega)
      refine ⟨d, rest ++ [Nat.digitChar (n % 10)], ?_, nonzero⟩
      rw [Nat.toDigits_of_base_le (by decide) (by omega), leading, List.cons_append]

/-- Integers are written in one way only. -/
theorem canonical_ofInt (n : Int) : Canonical (ofInt n) := by
  by_cases zero : n = 0
  · exact .inl (by rw [zero]; rfl)
  · obtain ⟨d, rest, written, nonzero⟩ := digits_head (n := n.natAbs) (by omega)
    have all : ∀ c ∈ d :: rest, c.isDigit = true := by
      rw [← written]
      exact fun c => isDigit_of_mem_digits
    refine .inr ⟨d, rest, ?_, nonzero, all⟩
    unfold ofInt
    rw [written]
    split
    · exact .inr rfl
    · exact .inl rfl

/-! ## Spellings -/

/-- A sign, if any, before what stands for a natural number. -/
inductive Signed (unsigned : List Char → Nat → Prop) : List Char → Int → Prop
  | plain {s : List Char} {n : Nat} (reads : unsigned s n) : Signed unsigned s n
  | plus {s : List Char} {n : Nat} (reads : unsigned s n) : Signed unsigned ('+' :: s) n
  | minus {s : List Char} {n : Nat} (reads : unsigned s n) : Signed unsigned ('-' :: s) (-n)

/-- Nothing but digits. -/
def Digits (s : List Char) (n : Nat) : Prop :=
  s ≠ [] ∧ (∀ c ∈ s, c.isDigit = true) ∧ n = value s

/-- Digits, among which underscores may stand after the first. -/
def Grouped (s : List Char) (n : Nat) : Prop :=
  ∃ d rest, s = d :: rest ∧ d.isDigit = true ∧ (∀ c ∈ rest, c.isDigit = true ∨ c = '_') ∧
    n = value (d :: rest.filter (· != '_'))

theorem signed_iff {unsigned : List Char → Nat → Prop}
    (digit : ∀ {c s n}, unsigned (c :: s) n → c.isDigit = true) {s : List Char} {n : Int} :
    Signed unsigned s n ↔ ∃ m, unsigned (sign s).2 m ∧ signed (sign s).1 m = n := by
  constructor
  · rintro (⟨reads⟩ | ⟨reads⟩ | ⟨reads⟩)
    · -- what begins with a sign has no digit there
      have unmarked : sign s = (false, s) := by
        unfold sign
        split
        · exact absurd (digit reads) (by decide)
        · exact absurd (digit reads) (by decide)
        · rfl
      rw [unmarked]
      exact ⟨_, reads, rfl⟩
    · exact ⟨_, reads, rfl⟩
    · exact ⟨_, reads, rfl⟩
  · rintro ⟨m, reads, rfl⟩
    unfold sign at reads ⊢
    split at reads
    · exact .minus reads
    · exact .plus reads
    · exact .plain reads

theorem natural?_iff {s : List Char} {n : Nat} : natural? s = some n ↔ Grouped s n := by
  cases s with
  | nil => simp [natural?, Grouped]
  | cons d rest =>
    have digits : (rest.filter (· != '_')).all Char.isDigit = true ↔
        ∀ c ∈ rest, c.isDigit = true ∨ c = '_' := by
      simp only [List.all_eq_true, List.mem_filter, bne_iff_ne, ne_eq, and_imp,
        Decidable.or_iff_not_imp_right]
    simp only [natural?, Option.ite_none_right_eq_some, Bool.and_eq_true, digits, Option.some.injEq,
      Grouped, List.cons.injEq]
    constructor
    · rintro ⟨⟨first, others⟩, same⟩
      exact ⟨d, rest, ⟨rfl, rfl⟩, first, others, same.symm⟩
    · rintro ⟨_, _, ⟨rfl, rfl⟩, first, others, same⟩
      exact ⟨⟨first, others⟩, same.symm⟩

/-- Integers of any size are read from grouped digits after a sign. -/
theorem integer?_iff {s : List Char} {n : Int} : integer? s = some n ↔ Signed Grouped s n := by
  rw [signed_iff]
  · simp only [integer?, Option.map_eq_some_iff, natural?_iff]
  · rintro c s n ⟨d, rest, same, digit, -⟩
    cases same
    exact digit

/-- Integers between bounds are read from digits after a sign. -/
theorem bounded?_iff {low high : Int} {s : List Char} {n : Int} :
    bounded? low high s = some n ↔ Signed Digits s n ∧ low ≤ n ∧ n ≤ high := by
  rw [signed_iff]
  · simp only [bounded?, Option.ite_none_left_eq_some, Option.ite_none_right_eq_some,
      Bool.or_eq_true, not_or, List.isEmpty_iff, Bool.not_eq_true', Bool.not_eq_false,
      List.all_eq_true, Option.some.injEq, Digits]
    constructor
    · rintro ⟨⟨present, digits⟩, between, rfl⟩
      exact ⟨⟨_, ⟨present, digits, rfl⟩, rfl⟩, between⟩
    · rintro ⟨⟨_, ⟨present, digits, rfl⟩, rfl⟩, between⟩
      exact ⟨⟨present, digits⟩, between, rfl⟩
  · rintro c s n ⟨-, digits, -⟩
    exact digits c List.mem_cons_self

/-! ## Numerals before a hyphen -/

theorem digits_append_inj {n m : Nat} {s t : List Char}
    (same : digits n ++ '-' :: s = digits m ++ '-' :: t) : n = m ∧ s = t := by
  have leading : ∀ n s, (digits n ++ '-' :: s).takeWhile Char.isDigit = digits n := by
    intro n s
    rw [List.takeWhile_append_of_pos fun c member => isDigit_of_mem_digits member]
    simp
  have numerals : digits n = digits m := by rw [← leading n s, same, leading m t]
  rw [numerals] at same
  have values := congrArg value numerals
  rw [value_digits, value_digits] at values
  exact ⟨values, List.tail_eq_of_cons_eq (List.append_cancel_left same)⟩

theorem digits_append_ne {n : Nat} {s t : List Char} : digits n ++ s ≠ '-' :: t := by
  intro same
  cases written : digits n with
  | nil => exact digits_ne_nil n written
  | cons d rest =>
    have digit : d.isDigit := isDigit_of_mem_digits (n := n) (by simp [written])
    rw [written] at same
    cases same
    simp at digit

/-- A numeral before a hyphen can be told from what follows, though it may begin with one. -/
theorem ofInt_append_inj {n m : Int} {s t : List Char}
    (same : ofInt n ++ '-' :: s = ofInt m ++ '-' :: t) : n = m ∧ s = t := by
  unfold ofInt at same
  -- no digits begin with a hyphen, so the signs agree
  by_cases negative : n < 0
  · by_cases negative' : m < 0
    · simp only [negative, negative', if_true, List.cons_append, List.cons.injEq, true_and] at same
      obtain ⟨values, rests⟩ := digits_append_inj same
      exact ⟨by omega, rests⟩
    · simp only [negative, negative', if_true, if_false] at same
      exact absurd same.symm digits_append_ne
  · by_cases negative' : m < 0
    · simp only [negative, negative', if_true, if_false] at same
      exact absurd same digits_append_ne
    · simp only [negative, negative', if_false] at same
      obtain ⟨values, rests⟩ := digits_append_inj same
      exact ⟨by omega, rests⟩

end Numeral
end PoolIndexer
