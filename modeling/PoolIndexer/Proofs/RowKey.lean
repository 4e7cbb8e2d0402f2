import PoolIndexer.Proofs.Stamping
import PoolIndexer.Proofs.StoredAssets

/-! Keys that tell their rows. A key of a yield is read from both ends: the time and the address
from the front, as far as the first hyphen behind each of them, the yield from the back, as far as
the bracket that ends the rewards. -/
namespace PoolIndexer

section

variable {mark : Char} {s s' t t' : List Char}

/-- A text is divided at the first mark that it has in one way. -/
theorem firstMark_inj (free : mark ∉ s) (free' : mark ∉ s')
    (same : s ++ mark :: t = s' ++ mark :: t') : s = s' ∧ t = t' := by
  have front : ∀ {s t : List Char}, mark ∉ s → (s ++ mark :: t).takeWhile (· != mark) = s := by
    intro s t free
    have unmarked : ∀ c ∈ s, (c != mark) = true := by
      intro c member
      rw [bne_iff_ne]
      rintro rfl
      exact free member
    rw [List.takeWhile_append_of_pos unmarked]
    simp
  obtain rfl : s = s' := by rw [← front free, same, front free']
  exact ⟨rfl, List.tail_eq_of_cons_eq (List.append_cancel_left same)⟩

/-- And so it is at the last one. -/
theorem lastMark_inj (free : mark ∉ t) (free' : mark ∉ t')
    (same : s ++ mark :: t = s' ++ mark :: t') : s = s' ∧ t = t' := by
  have mirrored := congrArg List.reverse same
  simp only [List.reverse_append, List.reverse_cons, List.append_assoc, List.singleton_append]
    at mirrored
  obtain ⟨backs, fronts⟩ := firstMark_inj (by simpa using free) (by simpa using free') mirrored
  exact ⟨List.reverse_inj.mp fronts, List.reverse_inj.mp backs⟩

end

namespace Binary64

theorem bracket_digits (n : Nat) : ']' ∉ Numeral.digits n := by
  intro member
  exact absurd (Numeral.isDigit_of_mem_digits member) (by decide)

theorem bracket_positional (x : DecimalDigits) : ']' ∉ positional x [] := by
  intro member
  have digits := bracket_digits x.digits
  unfold positional at member
  dsimp only at member
  split at member
  · simp [digits] at member
  · split at member
    · simp only [List.mem_append, List.mem_cons] at member
      rcases member with front | dot | back
      · exact digits (List.mem_of_mem_take front)
      · exact absurd dot (by decide)
      · exact digits (List.mem_of_mem_drop back)
    · simp [digits] at member

theorem bracket_plainText (x : Binary64) : ']' ∉ x.plainText := by
  have sign : ']' ∉ x.signText := by
    unfold signText
    split <;> decide
  unfold plainText
  split
  · decide
  · split
    · simp [sign]
    · split
      · simp [sign]
      · simp [sign, bracket_positional]

end Binary64

namespace RowKey

/-- The keys of two yields are the same just where all that they are made of is, if no address has
a hyphen and both rewards end in a bracket. -/
theorem poolApr_inj {time time' : Int} {pair pair' : String} {supply supply' bond bond' : Int}
    {rewards rewards' : String} {apr apr' : Binary64} (plain : '-' ∉ pair.toList)
    (plain' : '-' ∉ pair'.toList) (closed : rewards.toList.getLast? = some ']')
    (closed' : rewards'.toList.getLast? = some ']') :
    poolApr time pair supply bond rewards apr = poolApr time' pair' supply' bond' rewards' apr' ↔
      time = time' ∧ pair = pair' ∧ supply = supply' ∧ bond = bond' ∧ rewards = rewards' ∧
        apr.plainText = apr'.plainText := by
  constructor
  · intro same
    have letters := congrArg String.toList same
    rw [poolApr_toList, poolApr_toList] at letters
    obtain ⟨times, rest⟩ := Numeral.ofInt_append_inj letters
    obtain ⟨pairs, rest⟩ := firstMark_inj plain plain' rest
    obtain ⟨supplies, rest⟩ := Numeral.ofInt_append_inj rest
    obtain ⟨bonds, rest⟩ := Numeral.ofInt_append_inj rest
    -- rewards may hold any number of hyphens, so what is left is read from its end
    obtain ⟨list, listed⟩ := List.getLast?_eq_some_iff.mp closed
    obtain ⟨list', listed'⟩ := List.getLast?_eq_some_iff.mp closed'
    rw [listed, listed', List.append_assoc, List.append_assoc] at rest
    have free : ∀ x : Binary64, ']' ∉ '-' :: x.plainText := by
      intro x
      simpa using x.bracket_plainText
    obtain ⟨lists, yields⟩ := lastMark_inj (free apr) (free apr') rest
    rw [lists, ← listed'] at listed
    exact ⟨times, String.toList_inj.mp pairs, supplies, bonds, String.toList_inj.mp listed,
      List.tail_eq_of_cons_eq yields⟩
  · rintro ⟨rfl, rfl, rfl, rfl, rfl, yields⟩
    rw [poolApr, yields]
    rfl

end RowKey

namespace Json

theorem compact_arr_closed (items : List Json) :
    (Json.arr items).compact.toList.getLast? = some ']' := by
  rw [compact, String.toList_ofList, render, ← List.cons_append, List.getLast?_concat]

end Json

namespace PoolApr

/-- The rewards of a row are written as a list. -/
def Listed (r : PoolApr) : Prop := ∃ rewards, r.rewards = Asset.listText rewards

/-- What the key of a row is made of. -/
def content (r : PoolApr) : Int × String × Int × Int × String × List Char :=
  (r.time, r.pairAddress, r.supply, r.bond, r.rewards, r.apr.plainText)

theorem Listed.closed {r : PoolApr} (listed : r.Listed) : r.rewards.toList.getLast? = some ']' := by
  obtain ⟨rewards, written⟩ := listed
  rw [written, Asset.listText, Json.compact_arr_closed]

theorem Keyed.key_eq_iff {r r' : PoolApr} (keyed : r.Keyed) (keyed' : r'.Keyed)
    (listed : r.Listed) (listed' : r'.Listed) (plain : '-' ∉ r.pairAddress.toList)
    (plain' : '-' ∉ r'.pairAddress.toList) : r.key = r'.key ↔ r.content = r'.content := by
  rw [keyed, keyed', RowKey.poolApr_inj plain plain' listed.closed listed'.closed]
  simp only [content, Prod.mk.injEq]

end PoolApr
end PoolIndexer
