import PoolIndexer.Proofs.Numeral
import PoolIndexer.Proofs.Result.Lists
import PoolIndexer.Transaction.Coin

/-!
Coin lists are read back as they were written: an amount right before its denomination, coins
between commas, with any blanks around them and any blank parts among them. What a text is read as
can always be written so.
-/
namespace PoolIndexer

/-! ## Blanks at the ends -/

theorem dropWhile_padded {before s rest : List Char} (blank : ∀ c ∈ before, isBlank c = true)
    (starts : ∀ c ∈ s.head?, isBlank c = false) (present : s ≠ []) :
    (before ++ (s ++ rest)).dropWhile isBlank = s ++ rest := by
  obtain ⟨c, s, rfl⟩ := List.exists_cons_of_ne_nil present
  rw [List.dropWhile_append_of_pos blank, List.cons_append,
    List.dropWhile_cons_of_neg (by simp [starts c rfl])]

/-- Blanks around a text that has none at its ends are what is cut off. -/
theorem trim_padded {before s after : List Char} (before_blank : ∀ c ∈ before, isBlank c = true)
    (after_blank : ∀ c ∈ after, isBlank c = true) (starts : ∀ c ∈ s.head?, isBlank c = false)
    (ends : ∀ c ∈ s.getLast?, isBlank c = false) (present : s ≠ []) :
    trim (before ++ s ++ after) = s := by
  have behind : (after.reverse ++ (s.reverse ++ [])).dropWhile isBlank = s.reverse ++ [] :=
    dropWhile_padded (by simpa using after_blank) (by rwa [List.head?_reverse]) (by simpa)
  rw [List.append_nil] at behind
  rw [trim, List.append_assoc, dropWhile_padded before_blank starts present, List.reverse_append,
    behind, List.reverse_reverse]

theorem trim_blank {s : List Char} (blank : ∀ c ∈ s, isBlank c = true) : trim s = [] := by
  have none : (s ++ []).dropWhile isBlank = [] := List.dropWhile_append_of_pos blank
  rw [List.append_nil] at none
  rw [trim, none]
  rfl

theorem mem_of_mem_trim {s : List Char} {c : Char} (member : c ∈ trim s) : c ∈ s := by
  have kept := (List.dropWhile_sublist isBlank).subset (List.mem_reverse.mp member)
  exact (List.dropWhile_sublist isBlank).subset (List.mem_reverse.mp kept)

theorem dropWhile_starts {p : Char → Bool} {s : List Char} :
    ∀ c ∈ (s.dropWhile p).head?, p c = false := by
  intro c first
  have stops := List.head?_dropWhile_not p s
  rwa [Option.mem_def.mp first] at stops

theorem trim_ends {s : List Char} : ∀ c ∈ (trim s).getLast?, isBlank c = false := by
  unfold trim
  rw [List.getLast?_reverse]
  exact dropWhile_starts

/-! ## Commas -/

theorem splitCommas_eq (s : List Char) : splitCommas s = s.splitOn ',' := by
  induction s with
  | nil => rw [splitCommas, List.splitOn_nil]
  | cons c rest ih =>
    rw [splitCommas, List.splitOn_cons_eq_if_modifyHead, ih]
    simp only [beq_iff_eq]
    obtain ⟨part, parts, split⟩ := List.exists_cons_of_ne_nil (List.splitOn_ne_nil ',' rest)
    rw [split]
    rfl

theorem uncut_of_mem_splitCommas {s part : List Char} (member : part ∈ splitCommas s) :
    ',' ∉ part := by
  induction s generalizing part with
  | nil =>
    rw [splitCommas, List.mem_singleton] at member
    simp [member]
  | cons c rest ih =>
    rw [splitCommas] at member
    split at member
    · rcases List.mem_cons.mp member with rfl | later
      · simp
      · exact ih later
    · rename_i uncut
      obtain ⟨first, parts, split⟩ : ∃ first parts, splitCommas rest = first :: parts := by
        rw [splitCommas_eq]
        exact List.exists_cons_of_ne_nil (List.splitOn_ne_nil ',' rest)
      rw [split] at member ih
      rcases List.mem_cons.mp member with rfl | later
      · intro among
        rcases List.mem_cons.mp among with same | among
        · exact uncut same.symm
        · exact ih List.mem_cons_self among
      · exact ih (List.mem_cons_of_mem _ later)

/-! ## Coins -/

/-- An amount right before its denomination. -/
def Coin.text (coin : Coin) : String := Numeral.text coin.amount ++ coin.denom

/-- The coin can be told from its text, also between blanks and commas. -/
structure Coin.Printable (coin : Coin) : Prop where
  nonneg : 0 ≤ coin.amount
  named : coin.denom.toList ≠ []
  uncut : ',' ∉ coin.denom.toList
  starts : ∀ c ∈ coin.denom.toList.head?, c.isDigit = false
  ends : ∀ c ∈ coin.denom.toList.getLast?, isBlank c = false

/-- What is read as a coin begins with digits, and what follows them is the denomination. -/
theorem parseTrimmedCoin_iff {s : List Char} {coin : Coin} :
    parseTrimmedCoin s = .ok coin ↔ ∃ amount, s = amount ++ coin.denom.toList ∧ amount ≠ [] ∧
      (∀ c ∈ amount, c.isDigit = true) ∧ coin.amount = Numeral.value amount ∧
      coin.denom.toList ≠ [] ∧ ∀ c ∈ coin.denom.toList.head?, c.isDigit = false := by
  constructor
  · intro parsed
    unfold parseTrimmedCoin at parsed
    dsimp only at parsed
    split at parsed
    · cases parsed
    · rename_i present
      simp only [Bool.or_eq_true, List.isEmpty_iff, not_or] at present
      cases parsed
      simp only [String.toList_ofList]
      refine ⟨s.takeWhile Char.isDigit, List.takeWhile_append_dropWhile.symm, present.1, ?_, rfl,
        present.2, dropWhile_starts⟩
      exact fun c member => List.all_eq_true.mp List.all_takeWhile c member
  · rintro ⟨amount, rfl, counted, digits, value, named, starts⟩
    -- the digits end where the denomination begins
    obtain ⟨c, rest, denom⟩ := List.exists_cons_of_ne_nil named
    have ends : ¬ c.isDigit = true := by simp [starts c (by rw [denom]; rfl)]
    have taken : (amount ++ coin.denom.toList).takeWhile Char.isDigit = amount := by
      rw [List.takeWhile_append_of_pos digits, denom, List.takeWhile_cons_of_neg ends,
        List.append_nil]
    have dropped : (amount ++ coin.denom.toList).dropWhile Char.isDigit = coin.denom.toList := by
      rw [List.dropWhile_append_of_pos digits, denom, List.dropWhile_cons_of_neg ends]
    have present : (amount.isEmpty || coin.denom.toList.isEmpty) = false := by
      simp [counted, named]
    simp only [parseTrimmedCoin, taken, dropped, present, Bool.false_eq_true, if_false,
      String.ofList_toList, ← value]

namespace Coin

theorem text_toList {coin : Coin} (nonneg : 0 ≤ coin.amount) :
    coin.text.toList = Numeral.digits coin.amount.natAbs ++ coin.denom.toList := by
  have positive : ¬ coin.amount < 0 := by omega
  rw [Coin.text, String.toList_append, Numeral.text, String.toList_ofList, Numeral.ofInt,
    if_neg positive]

namespace Printable

variable {coin : Coin} (printable : coin.Printable)
include printable

theorem text_starts : ∀ c ∈ coin.text.toList.head?, isBlank c = false := by
  intro c first
  rw [text_toList printable.nonneg,
    List.head?_append_of_ne_nil _ (Numeral.digits_ne_nil _)] at first
  exact Numeral.not_blank_of_isDigit (Numeral.isDigit_of_mem_digits (List.mem_of_head? first))

theorem text_ends : ∀ c ∈ coin.text.toList.getLast?, isBlank c = false := by
  intro c last
  rw [text_toList printable.nonneg, List.getLast?_append_of_ne_nil _ printable.named] at last
  exact printable.ends c last

theorem text_present : coin.text.toList ≠ [] := by
  rw [text_toList printable.nonneg]
  exact List.append_ne_nil_of_left_ne_nil (Numeral.digits_ne_nil _) _

theorem text_uncut : ',' ∉ coin.text.toList := by
  rw [text_toList printable.nonneg, List.mem_append, not_or]
  exact ⟨fun digit => absurd (Numeral.isDigit_of_mem_digits digit) (by decide), printable.uncut⟩

theorem parse_text : parseTrimmedCoin coin.text.toList = .ok coin := by
  rw [parseTrimmedCoin_iff]
  refine ⟨_, text_toList printable.nonneg, Numeral.digits_ne_nil _,
    fun _ => Numeral.isDigit_of_mem_digits, ?_, printable.named, printable.starts⟩
  rw [Numeral.value_digits, Int.natAbs_of_nonneg printable.nonneg]

end Printable

/-- What is read from a part without blanks at its ends can be written. -/
theorem printable_of_parse {part : List Char} {coin : Coin} (uncut : ',' ∉ part)
    (parsed : parseTrimmedCoin (trim part) = .ok coin) : coin.Printable := by
  obtain ⟨amount, written, -, -, value, named, starts⟩ := parseTrimmedCoin_iff.mp parsed
  refine ⟨by omega, named, fun member => uncut (mem_of_mem_trim ?_), starts, fun c last => ?_⟩
  · rw [written]
    exact List.mem_append_right amount member
  · refine trim_ends c (?_ : c ∈ (trim part).getLast?)
    rwa [written, List.getLast?_append_of_ne_nil _ named]

end Coin

/-! ## Lists of coins -/

/-- The parts stand for the coins: the text of each between blanks, in order, and among them parts
of nothing but blanks. -/
inductive CoinParts : List Coin → List String → Prop
  | nil : CoinParts [] []
  | blank {coins : List Coin} {part : String} {parts : List String}
      (blank : ∀ c ∈ part.toList, isBlank c = true) (rest : CoinParts coins parts) :
      CoinParts coins (part :: parts)
  | coin {coin : Coin} {coins : List Coin} {parts : List String} (before after : String)
      (before_blank : ∀ c ∈ before.toList, isBlank c = true)
      (after_blank : ∀ c ∈ after.toList, isBlank c = true) (rest : CoinParts coins parts) :
      CoinParts (coin :: coins) ((before ++ coin.text ++ after) :: parts)

namespace CoinParts

/-- Coins between commas, with nothing around them. -/
theorem ofTexts (coins : List Coin) : CoinParts coins (coins.map Coin.text) := by
  induction coins with
  | nil => exact .nil
  | cons coin coins ih => simpa using CoinParts.coin "" "" (by simp) (by simp) ih

variable {coins : List Coin} {parts : List String}

theorem uncut (stands : CoinParts coins parts) (printable : ∀ coin ∈ coins, coin.Printable) :
    ∀ part ∈ parts, ',' ∉ part.toList := by
  induction stands with
  | nil => simp
  | blank blank _ ih =>
    refine List.forall_mem_cons.mpr ⟨fun comma => ?_, ih printable⟩
    exact absurd (blank ',' comma) (by decide)
  | coin before after before_blank after_blank _ ih =>
    rw [List.forall_mem_cons] at printable
    refine List.forall_mem_cons.mpr ⟨fun comma => ?_, ih printable.2⟩
    rw [String.toList_append, String.toList_append, List.mem_append, List.mem_append] at comma
    rcases comma with (blank | among) | blank
    · exact absurd (before_blank ',' blank) (by decide)
    · exact printable.1.text_uncut among
    · exact absurd (after_blank ',' blank) (by decide)

theorem read (stands : CoinParts coins parts) (printable : ∀ coin ∈ coins, coin.Printable) :
    ((parts.map fun part => trim part.toList).filter (!·.isEmpty)).mapM parseTrimmedCoin =
      .ok coins := by
  induction stands with
  | nil => rfl
  | blank blank _ ih =>
    rw [List.map_cons, trim_blank blank, List.filter_cons_of_neg (by simp), ih printable]
  | @coin coin coins parts before after before_blank after_blank _ ih =>
    rw [List.forall_mem_cons] at printable
    obtain ⟨here, others⟩ := printable
    have trimmed : trim (before ++ coin.text ++ after).toList = coin.text.toList := by
      rw [String.toList_append, String.toList_append]
      exact trim_padded before_blank after_blank here.text_starts here.text_ends here.text_present
    rw [List.map_cons, trimmed, List.filter_cons_of_pos (by simpa using here.text_present),
      List.mapM_cons, here.parse_text, ih others]
    rfl

end CoinParts

theorem parseCoinList_parts {parts : List String} (uncut : ∀ part ∈ parts, ',' ∉ part.toList) :
    parseCoinList (",".intercalate parts) =
      ((parts.map fun part => trim part.toList).filter (!·.isEmpty)).mapM parseTrimmedCoin := by
  unfold parseCoinList
  rw [String.toList_intercalate, splitCommas_eq]
  by_cases none : parts = []
  · -- no parts and one blank part are written alike
    subst none
    rfl
  · have split : (",".toList.intercalate (parts.map String.toList)).splitOn ',' =
        parts.map String.toList :=
      List.splitOn_intercalate ',' (by simpa using uncut) (by simpa)
    rw [split, List.map_map]
    rfl

theorem parseCoinList_written {coins : List Coin} {parts : List String}
    (printable : ∀ coin ∈ coins, coin.Printable) (stands : CoinParts coins parts) :
    parseCoinList (",".intercalate parts) = .ok coins := by
  rw [parseCoinList_parts (stands.uncut printable), stands.read printable]

theorem parseCoinList_printable {text : String} {coins : List Coin}
    (parsed : parseCoinList text = .ok coins) : ∀ coin ∈ coins, coin.Printable := by
  intro coin member
  obtain ⟨s, among, read⟩ := Result.mem_mapM parsed member
  obtain ⟨part, split, rfl⟩ := List.mem_map.mp (List.mem_of_mem_filter among)
  exact Coin.printable_of_parse (uncut_of_mem_splitCommas split) read

/-- Coins are read back as they were written, with any blanks around them and any blank parts among
them. Whatever a text is read as can be written, and is then read as the same again. -/
theorem parseCoinList_reads :
    (∀ (coins : List Coin) (parts : List String), (∀ coin ∈ coins, coin.Printable) →
      CoinParts coins parts → parseCoinList (",".intercalate parts) = .ok coins) ∧
    ∀ (text : String) (coins : List Coin), parseCoinList text = .ok coins →
      (∀ coin ∈ coins, coin.Printable) ∧
        parseCoinList (",".intercalate (coins.map Coin.text)) = .ok coins := by
  refine ⟨fun coins parts printable => parseCoinList_written printable, fun text coins parsed => ?_⟩
  have printable := parseCoinList_printable parsed
  exact ⟨printable, parseCoinList_written printable (.ofTexts coins)⟩

/-- A denomination that begins with a digit of another script, and one that begins with a blank and
holds another. -/
def foreignCoins : List Coin := [⟨"٣/é", 0⟩, ⟨" or ai", 100000000000000000000⟩]

theorem parseCoinList_reads_foreign :
    (∀ coin ∈ foreignCoins, coin.Printable) ∧
      CoinParts foreignCoins ["\u3000", " 0٣/é\t", "", "100000000000000000000 or ai"] ∧
      parseCoinList "\u3000, 0٣/é\t,,100000000000000000000 or ai" = .ok foreignCoins ∧
      parseCoinList " 007orai," = .ok [⟨"orai", 7⟩] ∧ (⟨"orai", 7⟩ : Coin).Printable ∧
      parseCoinList "7orai" = .ok [⟨"orai", 7⟩] := by
  have printable : ∀ coin ∈ foreignCoins, coin.Printable := by
    simp only [foreignCoins, List.forall_mem_cons]
    refine ⟨⟨by decide, by decide, by decide, ?_, ?_⟩, ⟨by decide, by decide, by decide, ?_, ?_⟩,
      by simp⟩
    all_goals
      rintro c ⟨⟩
      rfl
  have parts : CoinParts foreignCoins
      ["\u3000", " 0٣/é\t", "", "100000000000000000000 or ai"] :=
    .blank (by simp [isBlank]) <| .coin " " "\t" (by simp [isBlank]) (by simp [isBlank]) <|
      .blank (by simp) <| .coin "" "" (by simp) (by simp) .nil
  have padded : parseCoinList " 007orai," = .ok [⟨"orai", 7⟩] := by decide
  obtain ⟨written, again⟩ := parseCoinList_reads.2 _ _ padded
  exact ⟨printable, parts, parseCoinList_reads.1 _ _ printable parts, padded,
    written _ List.mem_cons_self, again⟩

end PoolIndexer
