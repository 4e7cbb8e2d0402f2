import PoolIndexer.Proofs.Numeral
import PoolIndexer.Sql.Statement

/-! The placeholders in the text of an insertion, as a reader of the text finds them. The rows stand
in brackets, and their placeholders are numbered through from left to right. -/
namespace PoolIndexer.Sql

/-! ## Reading placeholders -/

/-- A placeholder in a text: the number of its parameter, and whether a number is made of that. -/
structure Placeholder where
  number : Nat
  cast : Bool
  deriving DecidableEq, Repr

/-- What makes a number of a parameter that is bound as text. -/
def castText : List Char :=
  [':', ':', 'T', 'E', 'X', 'T', ':', ':', 'N', 'U', 'M', 'E', 'R', 'I', 'C']

/-- The placeholder that a dollar sign begins, from what follows the sign. -/
def placeholderAfter? (rest : List Char) : Option Placeholder :=
  if rest.takeWhile Char.isDigit = [] then none
  else some ⟨Numeral.value (rest.takeWhile Char.isDigit),
    castText.isPrefixOf (rest.dropWhile Char.isDigit)⟩

/-- The placeholders of a text from left to right. -/
def placeholders : List Char → List Placeholder
  | [] => []
  | c :: rest =>
    if c = '$' then (placeholderAfter? rest).toList ++ placeholders rest else placeholders rest

/-- What stands in brackets that hold no others, from left to right. -/
def bracketed : List Char → List (List Char)
  | [] => []
  | c :: rest =>
    if c = '(' then rest.takeWhile (· != ')') :: bracketed rest else bracketed rest

theorem placeholders_plain {s : List Char} (plain : '$' ∉ s) (t : List Char) :
    placeholders (s ++ t) = placeholders t := by
  induction s with
  | nil => rfl
  | cons c rest ih =>
    rw [List.mem_cons, not_or] at plain
    rw [List.cons_append, placeholders, if_neg (Ne.symm plain.1), ih plain.2]

theorem bracketed_plain {s : List Char} (plain : '(' ∉ s) (t : List Char) :
    bracketed (s ++ t) = bracketed t := by
  induction s with
  | nil => rfl
  | cons c rest ih =>
    rw [List.mem_cons, not_or] at plain
    rw [List.cons_append, bracketed, if_neg (Ne.symm plain.1), ih plain.2]

/-- A text ends a placeholder that stands before it. -/
def Ends (t : List Char) : Prop := ∀ c ∈ t.head?, c.isDigit = false ∧ c ≠ ':'

/-- The placeholders of a part, whatever follows it that ends the last one. -/
def Shows (s : List Char) (found : List Placeholder) : Prop :=
  ∀ t, Ends t → placeholders (s ++ t) = found ++ placeholders t

theorem ends_nil : Ends [] := by simp [Ends]

theorem Shows.whole {s : List Char} {found : List Placeholder} (shows : Shows s found) :
    placeholders s = found := by
  have all := shows [] ends_nil
  rwa [List.append_nil, placeholders, List.append_nil] at all

theorem Shows.append_of_plain {s more : List Char} {found : List Placeholder} (shows : Shows s found)
    (ends : Ends more) (notEmpty : more ≠ []) (plain : '$' ∉ more) : Shows (s ++ more) found := by
  intro t _
  have ends' : Ends (more ++ t) := by
    cases more with
    | nil => exact absurd rfl notEmpty
    | cons c rest => exact ends
  rw [List.append_assoc, shows _ ends', placeholders_plain plain]

theorem Shows.prepend {s before : List Char} {found : List Placeholder} (shows : Shows s found)
    (plain : '$' ∉ before) : Shows (before ++ s) found := by
  intro t ends
  rw [List.append_assoc, placeholders_plain plain, shows t ends]

/-- Items divided by commas hold the placeholders of each. -/
theorem shows_intercalate {α : Type} {text : α → List Char} {found : α → List Placeholder}
    (items : List α) (each : ∀ a ∈ items, Shows (text a) (found a)) :
    Shows (List.intercalate [',', ' '] (items.map text)) (items.flatMap found) := by
  induction items with
  | nil => exact fun t _ => rfl
  | cons a rest ih =>
    have first := each a List.mem_cons_self
    have others := ih fun b member => each b (List.mem_cons_of_mem a member)
    cases rest with
    | nil => simpa using first
    | cons b more =>
      intro t ends
      have both : (a :: b :: more).flatMap found = found a ++ (b :: more).flatMap found :=
        List.flatMap_cons
      rw [both, List.append_assoc, ← others t ends, List.map_cons, List.map_cons,
        List.intercalate_cons_cons, ← List.map_cons, List.append_assoc, List.append_assoc,
        first _ (by simp [Ends]), placeholders_plain (by decide)]

/-! ## Placeholders of rows -/

theorem digits_takeWhile {n : Nat} {t : List Char} (ends : ∀ c ∈ t.head?, c.isDigit = false) :
    (Numeral.digits n ++ t).takeWhile Char.isDigit = Numeral.digits n ∧
      (Numeral.digits n ++ t).dropWhile Char.isDigit = t := by
  have all : ∀ c ∈ Numeral.digits n, c.isDigit := fun c => Numeral.isDigit_of_mem_digits
  rw [List.takeWhile_append_of_pos all, List.dropWhile_append_of_pos all]
  cases t with
  | nil => simp
  | cons c rest => simp [ends c rfl]

theorem dollar_notMem_digits (n : Nat) : '$' ∉ Numeral.digits n := fun member => by
  have digit := Numeral.isDigit_of_mem_digits member
  simp at digit

theorem text_natCast (n : Nat) : (Numeral.text n).toList = Numeral.digits n := by
  have nonneg : ¬ (n : Int) < 0 := Int.not_lt.mpr (Int.natCast_nonneg n)
  rw [Numeral.text, String.toList_ofList, Numeral.ofInt, if_neg nonneg, Int.natAbs_natCast]

theorem placeholder_toList (type : ColumnType) (n : Nat) :
    (placeholder type n).toList =
      '$' :: (Numeral.digits n ++ if type = .numeric then castText else []) := by
  have cast : "::TEXT::NUMERIC".toList = castText := by decide +kernel
  have sign : "$".toList = ['$'] := rfl
  cases type <;> simp [placeholder, text_natCast, cast, sign]

theorem ends_castText (t : List Char) : ∀ c ∈ (castText ++ t).head?, c.isDigit = false := by
  simp [castText]

theorem shows_placeholder (type : ColumnType) (n : Nat) :
    Shows (placeholder type n).toList [⟨n, type = .numeric⟩] := by
  intro t ends
  have written : Numeral.digits n ≠ [] := Numeral.digits_ne_nil n
  rw [placeholder_toList, List.cons_append, placeholders, if_pos rfl, List.append_assoc,
    placeholders_plain (dollar_notMem_digits n), placeholderAfter?]
  by_cases numeric : type = .numeric
  · obtain ⟨leading, rest⟩ := digits_takeWhile (n := n) (ends_castText t)
    rw [if_pos numeric, leading, rest, if_neg written, placeholders_plain (by decide),
      Numeral.value_digits]
    simp [numeric]
  · obtain ⟨leading, rest⟩ := digits_takeWhile (n := n) fun c first => (ends c first).1
    have apart : castText.isPrefixOf t = false := by
      cases t with
      | nil => rfl
      | cons c more =>
        have colon : c ≠ ':' := (ends c rfl).2
        simp [castText, List.isPrefixOf, Ne.symm colon]
    rw [if_neg numeric, List.nil_append, leading, rest, if_neg written, apart,
      Numeral.value_digits]
    simp [numeric]

/-! ## Rows of placeholders -/

theorem commaSeparated_toList (items : List String) :
    (commaSeparated items).toList = List.intercalate [',', ' '] (items.map String.toList) := by
  have separator : ", ".toList = [',', ' '] := rfl
  rw [commaSeparated, String.toList_intercalate, separator]

/-- The placeholders of a row whose first parameter is numbered `start`, as they are read. -/
def rowHolders (columns : List Column) (start : Nat) : List Placeholder :=
  columns.zipIdx.map fun (column, offset) => ⟨start + offset, column.type = .numeric⟩

/-- The text of a row without its brackets. -/
def rowText (columns : List Column) (start : Nat) : List Char :=
  (commaSeparated (rowPlaceholders columns start)).toList

/-- The text of the rows. -/
def valuesText (columns : List Column) (rows : Nat) : List Char :=
  (commaSeparated (valueGroups columns rows)).toList

theorem shows_rowText (columns : List Column) (start : Nat) :
    Shows (rowText columns start) (rowHolders columns start) := by
  have all := shows_intercalate columns.zipIdx fun entry _ =>
    shows_placeholder entry.1.type (start + entry.2)
  rw [← List.map_eq_flatMap] at all
  rw [rowText, commaSeparated_toList, rowPlaceholders, List.map_map]
  exact all

theorem valuesText_eq (columns : List Column) (rows : Nat) :
    valuesText columns rows = List.intercalate [',', ' '] ((List.range rows).map fun i =>
      '(' :: (rowText columns (i * columns.length + 1) ++ [')'])) := by
  have opening : "(".toList = ['('] := rfl
  have closing : ")".toList = [')'] := rfl
  rw [valuesText, commaSeparated_toList, valueGroups, List.map_map]
  refine congrArg _ (List.map_congr_left fun i _ => ?_)
  rw [Function.comp_apply, String.toList_append, String.toList_append, opening, closing, rowText]
  rfl

/-- Read as one text, the rows hold their placeholders one row after the other. -/
theorem shows_valuesText (columns : List Column) (rows : Nat) :
    Shows (valuesText columns rows)
      ((List.range rows).flatMap fun i => rowHolders columns (i * columns.length + 1)) := by
  rw [valuesText_eq]
  refine shows_intercalate (List.range rows) fun i _ => ?_
  have opening : '$' ∉ ['('] := by simp
  have closing : '$' ∉ [')'] := by simp
  have row := shows_rowText columns (i * columns.length + 1)
  exact (row.append_of_plain (by simp [Ends]) (by simp) closing).prepend opening

/-! ## Brackets -/

theorem mem_intercalate {c : Char} {separator : List Char} {items : List (List Char)}
    (member : c ∈ List.intercalate separator items) : c ∈ separator ∨ ∃ s ∈ items, c ∈ s := by
  induction items with
  | nil => cases member
  | cons s rest ih =>
    cases rest with
    | nil =>
      rw [List.intercalate_singleton] at member
      exact .inr ⟨s, List.mem_cons_self, member⟩
    | cons t more =>
      rw [List.intercalate_cons_cons] at member
      rcases List.mem_append.mp member with first | later
      · rcases List.mem_append.mp first with inside | between
        · exact .inr ⟨s, List.mem_cons_self, inside⟩
        · exact .inl between
      · rcases ih later with between | ⟨u, among, inside⟩
        · exact .inl between
        · exact .inr ⟨u, List.mem_cons_of_mem s among, inside⟩

theorem placeholder_plain (type : ColumnType) (n : Nat) :
    ∀ c ∈ (placeholder type n).toList, c ≠ '(' ∧ c ≠ ')' := by
  have cast : ∀ c ∈ castText, c ≠ '(' ∧ c ≠ ')' := by simp [castText]
  intro c member
  rw [placeholder_toList] at member
  rcases List.mem_cons.mp member with rfl | member
  · decide
  rcases List.mem_append.mp member with digit | member
  · have digit := Numeral.isDigit_of_mem_digits digit
    constructor
    · rintro rfl
      simp at digit
    · rintro rfl
      simp at digit
  · split at member
    · exact cast c member
    · cases member

/-- There are no brackets in a row. -/
theorem rowText_plain (columns : List Column) (start : Nat) :
    ∀ c ∈ rowText columns start, c ≠ '(' ∧ c ≠ ')' := by
  have separator : ∀ c ∈ [',', ' '], c ≠ '(' ∧ c ≠ ')' := by simp
  intro c member
  rw [rowText, commaSeparated_toList] at member
  rcases mem_intercalate member with between | ⟨s, among, inside⟩
  · exact separator c between
  · obtain ⟨text, listed, rfl⟩ := List.mem_map.mp among
    obtain ⟨entry, -, rfl⟩ := List.mem_map.mp listed
    exact placeholder_plain _ _ c inside

theorem bracketed_group {s : List Char} (plain : ∀ c ∈ s, c ≠ '(' ∧ c ≠ ')') (t : List Char) :
    bracketed ('(' :: (s ++ ')' :: t)) = s :: bracketed t := by
  have inside : ∀ c ∈ s, (c != ')') = true := fun c member => bne_iff_ne.mpr (plain c member).2
  have open' : '(' ∉ s ++ [')'] := by
    simpa using fun member => (plain '(' member).1 rfl
  rw [bracketed, if_pos rfl, List.takeWhile_append_of_pos inside, List.append_cons,
    bracketed_plain open']
  simp

theorem bracketed_groups {α : Type} {text : α → List Char} {items : List α}
    (plain : ∀ a ∈ items, ∀ c ∈ text a, c ≠ '(' ∧ c ≠ ')') :
    bracketed (List.intercalate [',', ' '] (items.map fun a => '(' :: (text a ++ [')']))) =
      items.map text := by
  induction items with
  | nil => rfl
  | cons a rest ih =>
    have here := plain a List.mem_cons_self
    have later := ih fun b member => plain b (List.mem_cons_of_mem a member)
    cases rest with
    | nil =>
      rw [List.map_cons, List.map_nil, List.intercalate_singleton]
      exact bracketed_group here []
    | cons b more =>
      simp only [List.map_cons] at later ⊢
      rw [List.intercalate_cons_cons, List.append_assoc, List.cons_append, List.append_assoc,
        List.singleton_append, bracketed_group here, bracketed_plain (by decide), later]

theorem bracketed_valuesText (columns : List Column) (rows : Nat) :
    bracketed (valuesText columns rows) =
      (List.range rows).map fun i => rowText columns (i * columns.length + 1) := by
  rw [valuesText_eq]
  exact bracketed_groups fun i _ => rowText_plain columns _

end PoolIndexer.Sql
