import PoolIndexer.Json.Decode
import PoolIndexer.Json.Printer
import PoolIndexer.Json.Reader

/-! Printed JSON is read back, whatever characters its strings have: a string literal comes to its
text, and a value without numbers to what it was printed from. -/
namespace PoolIndexer.Json

open Utf8 (Symbol)

/-! ## String literals -/

theorem hexValue?_hexDigit : ∀ n < 16, Numeral.hexValue? (hexDigit n) = some n := by decide

theorem not_half {n : Nat} (small : n < 0x20) : isHighHalf n = false ∧ isLowHalf n = false := by
  simp only [isHighHalf, isLowHalf, Bool.and_eq_false_imp, decide_eq_true_eq,
    decide_eq_false_iff_not]
  omega

theorem scanString_plain {c : Char} (notQuote : c ≠ '"') (notBackslash : c ≠ '\\')
    (printable : ¬ c.toNat < 0x20) (r : List Symbol) :
    scanString (some c :: r) = prepend (some c) (scanString r) := by
  rw [scanString]
  · simp [printable, notBackslash]
  · simpa using notQuote
  · simp [notBackslash]
  · simp [notBackslash]

theorem scanString_control {c : Char} (control : c.toNat < 0x20) (r : List Symbol) :
    scanString (['\\', 'u', '0', '0', hexDigit (c.toNat / 16), hexDigit (c.toNat % 16)].map some
      ++ r) = prepend (some c) (scanString r) := by
  have high := hexValue?_hexDigit (c.toNat / 16) (by omega)
  have low := hexValue?_hexDigit (c.toNat % 16) (by omega)
  have zero : Numeral.hexValue? '0' = some 0 := rfl
  have unit : hexUnit? (some '0') (some '0') (some (hexDigit (c.toNat / 16)))
      (some (hexDigit (c.toNat % 16))) = some c.toNat := by
    simp only [hexUnit?, Option.bind_eq_bind, Option.bind_some, high, low, zero, Option.pure_def,
      Option.some.injEq]
    omega
  simp [scanString, unit, not_half control]

/-- A character is read out of its escape. -/
theorem scanString_escape (c : Char) (r : List Symbol) :
    scanString ((escape c).map some ++ r) = prepend (some c) (scanString r) := by
  unfold escape
  by_cases quote : c = '"'
  · simp [quote, scanString, simpleEscape?]
  by_cases backslash : c = '\\'
  · simp [backslash, scanString, simpleEscape?]
  by_cases newline : c = '\n'
  · simp [newline, scanString, simpleEscape?]
  by_cases carriage : c = '\r'
  · simp [carriage, scanString, simpleEscape?]
  by_cases tab : c = '\t'
  · simp [tab, scanString, simpleEscape?]
  by_cases backspace : c = '\x08'
  · simp [backspace, scanString, simpleEscape?]
  by_cases feed : c = '\x0c'
  · simp [feed, scanString, simpleEscape?]
  simp only [quote, backslash, newline, carriage, tab, backspace, feed, if_false]
  split
  · exact scanString_control ‹_› r
  · exact scanString_plain quote backslash ‹_› r

theorem scanString_escaped (cs : List Char) (r : List Symbol) :
    scanString ((cs.flatMap escape ++ ['"']).map some ++ r) = some (some cs, r) := by
  induction cs with
  | nil => simp [scanString]
  | cons c rest ih =>
    simp only [List.flatMap_cons, List.append_assoc, List.map_append] at ih ⊢
    rw [scanString_escape, ih]
    rfl

theorem scanString_quote (text : String) (r : List Symbol) :
    ∃ literal, (quote text).map some ++ r = some '"' :: literal ∧
      scanString literal = some (some text.toList, r) :=
  ⟨_, rfl, scanString_escaped text.toList r⟩

/-! ## Values without numbers -/

mutual

/-- There is no number in the value. -/
def numberless : Json → Bool
  | .null | .bool _ | .str _ => true
  | .int _ | .real _ => false
  | .arr items => itemsNumberless items
  | .obj fields => fieldsNumberless fields

def itemsNumberless : List Json → Bool
  | [] => true
  | j :: rest => numberless j && itemsNumberless rest

def fieldsNumberless : List (String × Json) → Bool
  | [] => true
  | (_, j) :: rest => numberless j && fieldsNumberless rest

end

/-- What a value begins with is no blank, and ends no list. -/
theorem render_head {j : Json} (plain : j.numberless = true) :
    ∃ c cs, j.render = c :: cs ∧ isGap c = false ∧ c ≠ ']' := by
  cases j with
  | null => exact ⟨_, _, rfl, rfl, by decide⟩
  | bool b => cases b <;> exact ⟨_, _, rfl, rfl, by decide⟩
  | int n => simp [numberless] at plain
  | real x => simp [numberless] at plain
  | str s => exact ⟨_, _, rfl, rfl, by decide⟩
  | arr items => exact ⟨_, _, rfl, rfl, by decide⟩
  | obj fields => exact ⟨_, _, rfl, rfl, by decide⟩

theorem renderItems_cons_cons (j k : Json) (rest : List Json) :
    renderItems (j :: k :: rest) = j.render ++ ',' :: renderItems (k :: rest) := by
  rw [renderItems]
  exact List.cons_ne_nil k rest

theorem renderFields_cons_cons (name : String) (j : Json) (field : String × Json)
    (rest : List (String × Json)) :
    renderFields ((name, j) :: field :: rest) =
      quote name ++ ':' :: (j.render ++ ',' :: renderFields (field :: rest)) := by
  rw [renderFields]
  exact List.cons_ne_nil field rest

theorem renderItems_head {j : Json} (plain : j.numberless = true) (rest : List Json) :
    ∃ c cs, renderItems (j :: rest) = c :: cs ∧ isGap c = false ∧ c ≠ ']' := by
  obtain ⟨c, cs, head, visible, inner⟩ := render_head plain
  cases rest with
  | nil => exact ⟨c, cs, head, visible, inner⟩
  | cons k others =>
    exact ⟨c, _, by rw [renderItems_cons_cons, head, List.cons_append], visible, inner⟩

theorem renderFields_head (name : String) (j : Json) (rest : List (String × Json)) :
    ∃ cs, renderFields ((name, j) :: rest) = '"' :: cs := by
  cases rest with
  | nil => exact ⟨_, rfl⟩
  | cons field others => exact ⟨_, by rw [renderFields_cons_cons, quote, List.cons_append]⟩

/-! ## Reading lists and objects -/

section

variable {fuel : Nat} {s t r : List Symbol} {d : Document}

theorem skipGap_of_visible {c : Char} (visible : isGap c = false) (s : List Symbol) :
    skipGap (some c :: s) = some c :: s := by
  simp [skipGap, visible]

theorem readValue_arr {c : Char} (visible : isGap c = false) (inner : c ≠ ']') {items : List Document}
    (read : readItems fuel (some c :: s) = some (items, r)) :
    readValue (fuel + 1) (some '[' :: some c :: s) = some (.arr items, r) := by
  have opening : skipGap (some '[' :: some c :: s) = some '[' :: some c :: s :=
    skipGap_of_visible rfl _
  simp only [readValue, opening, skipGap_of_visible visible]
  split
  · rename_i same
    simp only [List.cons.injEq, Option.some.injEq] at same
    exact absurd same.1 inner
  · rw [read]
    rfl

theorem readItems_last (read : readValue fuel s = some (d, some ']' :: r)) :
    readItems (fuel + 1) s = some ([d], r) := by
  simp [readItems, read, skipGap, isGap]

theorem readItems_more (read : readValue fuel s = some (d, some ',' :: t))
    {items : List Document} (others : readItems fuel t = some (items, r)) :
    readItems (fuel + 1) s = some (d :: items, r) := by
  simp [readItems, read, skipGap, isGap, others]

theorem readValue_obj {fields : List (Option String × Document)}
    (read : readFields fuel (some '"' :: s) = some (fields, r)) :
    readValue (fuel + 1) (some '\x7b' :: some '"' :: s) = some (.obj fields, r) := by
  simp [readValue, skipGap, isGap, read]

variable {name : String}

theorem readFields_last (read : readValue fuel s = some (d, some '\x7d' :: r)) :
    readFields (fuel + 1) ((quote name).map some ++ some ':' :: s) = some ([(some name, d)], r) := by
  obtain ⟨literal, split, scanned⟩ := scanString_quote name (some ':' :: s)
  rw [split]
  simp [readFields, skipGap, isGap, scanned, read]

theorem readFields_more (read : readValue fuel s = some (d, some ',' :: t))
    {fields : List (Option String × Document)} (others : readFields fuel t = some (fields, r)) :
    readFields (fuel + 1) ((quote name).map some ++ some ':' :: s) =
      some ((some name, d) :: fields, r) := by
  obtain ⟨literal, split, scanned⟩ := scanString_quote name (some ':' :: s)
  rw [split]
  simp [readFields, skipGap, isGap, scanned, read, others]

end

/-! ## Reading what was printed -/

mutual

theorem readValue_render : ∀ j : Json, j.numberless = true → ∀ {fuel : Nat},
    j.render.length ≤ fuel → ∀ r : List Symbol,
      readValue fuel (j.render.map some ++ r) = some (j.toDocument, r)
  | .null, _, fuel + 1, _, _ => by simp [render, readValue, skipGap, isGap, toDocument]
  | .bool b, _, fuel + 1, _, _ => by
    cases b <;> simp [render, readValue, skipGap, isGap, toDocument]
  | .str s, _, fuel + 1, _, r => by
    obtain ⟨literal, split, scanned⟩ := scanString_quote s r
    rw [render, split]
    simp [readValue, skipGap, isGap, scanned, toDocument]
  | .arr [], _, fuel + 1, _, _ => by
    simp [render, renderItems, readValue, skipGap, isGap, toDocument, toDocuments]
  | .arr (j :: rest), plain, fuel + 1, enough, r => by
    rw [numberless] at plain
    rw [render, List.length_cons, List.length_append, List.length_singleton] at enough
    have within : (renderItems (j :: rest)).length < fuel := by omega
    have items := readItems_render j rest plain within r
    rw [itemsNumberless, Bool.and_eq_true] at plain
    obtain ⟨c, cs, head, visible, inner⟩ := renderItems_head plain.1 rest
    have text : (render (.arr (j :: rest))).map some ++ r =
        some '[' :: ((renderItems (j :: rest)).map some ++ some ']' :: r) := by
      simp [render]
    rw [text]
    rw [head] at items ⊢
    exact readValue_arr visible inner items
  | .obj [], _, fuel + 1, _, _ => by
    simp [render, renderFields, readValue, skipGap, isGap, toDocument, toNamedDocuments]
  | .obj ((name, j) :: rest), plain, fuel + 1, enough, r => by
    rw [numberless] at plain
    rw [render, List.length_cons, List.length_append, List.length_singleton] at enough
    have within : (renderFields ((name, j) :: rest)).length < fuel := by omega
    have fields := readFields_render name j rest plain within r
    obtain ⟨cs, head⟩ := renderFields_head name j rest
    have text : (render (.obj ((name, j) :: rest))).map some ++ r =
        some '\x7b' :: ((renderFields ((name, j) :: rest)).map some ++ some '\x7d' :: r) := by
      simp [render]
    rw [text]
    rw [head] at fields ⊢
    exact readValue_obj fields
  | .int n, plain, _, _, _ => by simp [numberless] at plain
  | .real x, plain, _, _, _ => by simp [numberless] at plain
  | .null, _, 0, enough, _ => by simp [render] at enough
  | .bool b, _, 0, enough, _ => by cases b <;> simp [render] at enough
  | .str s, _, 0, enough, _ => by simp [render, quote] at enough
  | .arr items, _, 0, enough, _ => by simp [render] at enough
  | .obj fields, _, 0, enough, _ => by simp [render] at enough

theorem readItems_render : ∀ (j : Json) (rest : List Json), itemsNumberless (j :: rest) = true →
    ∀ {fuel : Nat}, (renderItems (j :: rest)).length < fuel → ∀ r : List Symbol,
      readItems fuel ((renderItems (j :: rest)).map some ++ some ']' :: r) =
        some (toDocuments (j :: rest), r)
  | j, [], plain, fuel + 1, enough, r => by
    rw [itemsNumberless, Bool.and_eq_true] at plain
    exact readItems_last (readValue_render j plain.1 (Nat.le_of_lt_succ enough) _)
  | j, k :: rest, plain, fuel + 1, enough, r => by
    rw [itemsNumberless, Bool.and_eq_true] at plain
    rw [renderItems_cons_cons] at enough ⊢
    rw [List.length_append, List.length_cons] at enough
    rw [List.map_append, List.append_assoc]
    exact readItems_more (readValue_render j plain.1 (by omega) _)
      (readItems_render k rest plain.2 (by omega) r)

theorem readFields_render : ∀ (name : String) (j : Json) (rest : List (String × Json)),
    fieldsNumberless ((name, j) :: rest) = true →
    ∀ {fuel : Nat}, (renderFields ((name, j) :: rest)).length < fuel → ∀ r : List Symbol,
      readFields fuel ((renderFields ((name, j) :: rest)).map some ++ some '\x7d' :: r) =
        some (toNamedDocuments ((name, j) :: rest), r)
  | name, j, [], plain, fuel + 1, enough, r => by
    rw [fieldsNumberless, Bool.and_eq_true] at plain
    rw [renderFields] at enough ⊢
    rw [List.length_append, List.length_cons] at enough
    rw [List.map_append, List.append_assoc]
    exact readFields_last (readValue_render j plain.1 (by omega) _)
  | name, j, (other, k) :: rest, plain, fuel + 1, enough, r => by
    rw [fieldsNumberless, Bool.and_eq_true] at plain
    rw [renderFields_cons_cons] at enough ⊢
    rw [List.length_append, List.length_cons, List.length_append, List.length_cons] at enough
    rw [List.map_append, List.append_assoc, List.map_cons, List.cons_append, List.map_append,
      List.append_assoc]
    exact readFields_more (readValue_render j plain.1 (by omega) _)
      (readFields_render other k rest plain.2 (by omega) r)

end

/-- A value without numbers is read back from its text. -/
theorem document?_compact {j : Json} (plain : j.numberless = true) :
    Json.document? j.compact = some j.toDocument := by
  have whole := readValue_render j plain (Nat.le_succ j.render.length) []
  simp only [List.append_nil] at whole
  simp [document?, compact, Utf8.ofText, read?, whole, skipGap]

/-! ## Lists of one kind -/

section

variable {α : Type} {toJson : α → Json}

theorem itemsNumberless_map (plain : ∀ a, (toJson a).numberless = true) (items : List α) :
    itemsNumberless (items.map toJson) = true := by
  induction items with
  | nil => rfl
  | cons a rest ih => rw [List.map_cons, itemsNumberless, plain, ih, Bool.and_self]

theorem toDocuments_map (items : List α) :
    toDocuments (items.map toJson) = items.map fun a => (toJson a).toDocument := by
  induction items with
  | nil => rfl
  | cons a rest ih => rw [List.map_cons, toDocuments, ih, List.map_cons]

/-- A list is read back if all items are. -/
theorem list?_toDocument {item? : Document → Option α}
    (read : ∀ a, item? (toJson a).toDocument = some a) (items : List α) :
    (Json.arr (items.map toJson)).toDocument.list? item? = some items := by
  rw [toDocument, toDocuments_map, Document.list?, Document.items?, Option.bind_some,
    List.mapM_map]
  have each : (item? ∘ fun a => (toJson a).toDocument) = fun a => pure (id a) := funext read
  rw [each, List.mapM_pure, List.map_id]
  rfl

end

end PoolIndexer.Json
