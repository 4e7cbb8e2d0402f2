import PoolIndexer.Candle

/-! Merging candles. What candles come to together does not depend on how they are grouped, and
the candles built of swaps merge those of the single swaps. -/
namespace PoolIndexer

/-! ## Extending is associative -/

namespace Binary64

/-- NaN is below everything, and of equal numbers the first one stays. -/
theorem max_assoc (x y z : Binary64) : (x.max y).max z = x.max (y.max z) := by
  cases nanX : x.isNaN with
  | true => simp [max, nanX]
  | false =>
    cases nanY : y.isNaN with
    | true => simp [max, nanX, nanY]
    | false =>
      by_cases first : x.rank < y.rank
      · cases nanZ : z.isNaN with
        | true => simp [max, lt, nanX, nanY, nanZ, first]
        | false =>
          by_cases second : y.rank < z.rank
          · have third : x.rank < z.rank := by omega
            simp [max, lt, nanX, nanY, nanZ, first, second, third]
          · simp [max, lt, nanX, nanY, nanZ, first, second]
      · cases nanZ : z.isNaN with
        | true => simp [max, lt, nanX, nanY, nanZ, first]
        | false =>
          by_cases second : y.rank < z.rank
          · simp [max, lt, nanX, nanY, nanZ, first, second]
          · have third : ¬ x.rank < z.rank := by omega
            simp [max, lt, nanX, nanY, nanZ, first, second, third]

theorem min_assoc (x y z : Binary64) : (x.min y).min z = x.min (y.min z) := by
  cases nanX : x.isNaN with
  | true => simp [min, nanX]
  | false =>
    cases nanY : y.isNaN with
    | true => simp [min, nanX, nanY]
    | false =>
      by_cases first : y.rank < x.rank
      · cases nanZ : z.isNaN with
        | true => simp [min, lt, nanX, nanY, nanZ, first]
        | false =>
          by_cases second : z.rank < y.rank
          · have third : z.rank < x.rank := by omega
            simp [min, lt, nanX, nanY, nanZ, first, second, third]
          · simp [min, lt, nanX, nanY, nanZ, first, second]
      · cases nanZ : z.isNaN with
        | true => simp [min, lt, nanX, nanY, nanZ, first]
        | false =>
          by_cases second : z.rank < y.rank
          · simp [min, lt, nanX, nanY, nanZ, first, second]
          · have third : ¬ z.rank < x.rank := by omega
            simp [min, lt, nanX, nanY, nanZ, first, second, third]

end Binary64

namespace Candle

theorem extend_assoc (a b c : Candle) : (a.extend b).extend c = a.extend (b.extend c) := by
  simp [extend, Binary64.max_assoc, Binary64.min_assoc, Int.add_assoc]

instance : Std.Associative extend := ⟨extend_assoc⟩

/-- The candle that a list of candles comes to; an empty list comes to none. -/
def merged : List Candle → Option Candle
  | [] => none
  | c :: rest => Option.merge extend (some c) (merged rest)

theorem merged_singleton (c : Candle) : merged [c] = some c := rfl

theorem merged_append (l l' : List Candle) :
    merged (l ++ l') = Option.merge extend (merged l) (merged l') := by
  induction l with
  | nil => simp [merged]
  | cons c rest ih => simp only [List.cons_append, merged, ih, Std.Associative.assoc]

theorem merged_eq_none {l : List Candle} : merged l = none ↔ l = [] := by
  cases l with
  | nil => simp [merged]
  | cons c rest => simp [merged]

/-! ## Candles of one pair and minute -/

/-- The candle is of a pair and begins at a time. -/
def isAt (pair : String) (time : Int) (c : Candle) : Bool := c.pair == pair && c.time == time

/-- The candles have the pair and the time in common. -/
def Meets (a b : Candle) : Prop := a.pair = b.pair ∧ a.time = b.time

instance (a b : Candle) : Decidable (a.Meets b) := inferInstanceAs (Decidable (_ ∧ _))

/-- No two candles are of one pair and time. -/
def Apart (candles : List Candle) : Prop := candles.Pairwise fun a b => ¬ a.Meets b

theorem isAt_iff {pair : String} {time : Int} {c : Candle} :
    c.isAt pair time ↔ c.pair = pair ∧ c.time = time := by
  simp [isAt]

theorem isAt_of_meets {pair : String} {time : Int} {a b : Candle} (meets : a.Meets b) :
    a.isAt pair time = b.isAt pair time := by
  simp [isAt, meets.1, meets.2]

/-- Whatever is in a list after a candle was put into it meets that candle or was in the list. -/
theorem mem_add {later c : Candle} {candles : List Candle} (member : c ∈ add later candles) :
    (∃ old ∈ candles, old.Meets c ∧ old.height = c.height) ∨ c = later := by
  induction candles with
  | nil => simpa [add] using member
  | cons first rest ih =>
    simp only [add] at member
    split at member
    · rcases List.mem_cons.mp member with rfl | member
      · exact .inl ⟨first, List.mem_cons_self, ⟨rfl, rfl⟩, rfl⟩
      · exact .inl ⟨c, List.mem_cons_of_mem _ member, ⟨rfl, rfl⟩, rfl⟩
    · rcases List.mem_cons.mp member with rfl | member
      · exact .inl ⟨c, List.mem_cons_self, ⟨rfl, rfl⟩, rfl⟩
      · rcases ih member with ⟨old, oldMember, meets, height⟩ | same
        · exact .inl ⟨old, List.mem_cons_of_mem _ oldMember, meets, height⟩
        · exact .inr same

theorem add_apart (later : Candle) {candles : List Candle} (apart : Apart candles) :
    Apart (add later candles) := by
  induction candles with
  | nil => exact List.pairwise_singleton _ _
  | cons first rest ih =>
    obtain ⟨others, within⟩ := List.pairwise_cons.mp apart
    simp only [add]
    split
    · exact List.pairwise_cons.mpr ⟨others, within⟩
    · rename_i differs
      refine List.pairwise_cons.mpr ⟨?_, ih within⟩
      intro c member
      rcases mem_add member with ⟨old, oldMember, meets, _⟩ | rfl
      · intro meeting
        exact others old oldMember
          ⟨meeting.1.trans meets.1.symm, meeting.2.trans meets.2.symm⟩
      · exact differs

/-- For what a pair and minute come to, it is the same whether a candle is put into a list or
appended to it. -/
theorem merged_add (pair : String) (time : Int) (later : Candle) {candles : List Candle}
    (apart : Apart candles) :
    merged ((add later candles).filter (isAt pair time)) =
      merged ((candles ++ [later]).filter (isAt pair time)) := by
  induction candles with
  | nil => rfl
  | cons first rest ih =>
    obtain ⟨others, within⟩ := List.pairwise_cons.mp apart
    simp only [add]
    split
    · rename_i meets
      have place : first.isAt pair time = later.isAt pair time := isAt_of_meets meets
      have kept : (first.extend later).isAt pair time = first.isAt pair time := rfl
      cases here : later.isAt pair time with
      | false => simp [here, kept, place]
      | true =>
        have alone : rest.filter (isAt pair time) = [] := by
          rw [List.filter_eq_nil_iff]
          intro c member
          have apartFromFirst := others c member
          rw [here, isAt_iff] at place
          rw [isAt_iff]
          rintro ⟨rfl, rfl⟩
          exact apartFromFirst ⟨place.1, place.2⟩
        simp [here, kept, place, alone, merged]
    · simp only [List.cons_append, List.filter_cons]
      split
      · simp only [merged, ih within]
      · exact ih within

end Candle

/-! ## The candles of swaps -/

/-- The candles that swaps make one by one. -/
def swapCandles (pairs : List Pair) (swaps : List Swap) : List Candle :=
  swaps.filterMap (·.candle? pairs)

namespace Candle

/-- Puts candles into a list, one after the other. -/
def addAll (candles later : List Candle) : List Candle :=
  later.foldl (fun candles c => add c candles) candles

theorem addAll_apart (later : List Candle) {candles : List Candle} (apart : Apart candles) :
    Apart (addAll candles later) := by
  induction later generalizing candles with
  | nil => exact apart
  | cons c rest ih => exact ih (add_apart c apart)

theorem merged_addAll (pair : String) (time : Int) (later : List Candle) {candles : List Candle}
    (apart : Apart candles) :
    merged ((addAll candles later).filter (isAt pair time)) =
      merged ((candles ++ later).filter (isAt pair time)) := by
  induction later generalizing candles with
  | nil => simp [addAll]
  | cons c rest ih =>
    calc merged ((addAll (add c candles) rest).filter (isAt pair time))
        = merged ((add c candles ++ rest).filter (isAt pair time)) := ih (add_apart c apart)
      _ = merged ((candles ++ [c] ++ rest).filter (isAt pair time)) := by
          simp only [List.filter_append _ rest, merged_append _ (rest.filter _),
            merged_add pair time c apart]
      _ = merged ((candles ++ c :: rest).filter (isAt pair time)) := by simp

theorem mem_addAll {c : Candle} {later candles : List Candle}
    (member : c ∈ addAll candles later) : ∃ old ∈ candles ++ later, old.height = c.height := by
  induction later generalizing candles with
  | nil => exact ⟨c, by simpa [addAll] using member, rfl⟩
  | cons first rest ih =>
    obtain ⟨old, oldMember, height⟩ := ih member
    rcases List.mem_append.mp oldMember with added | rested
    · rcases mem_add added with ⟨older, olderMember, _, olderHeight⟩ | rfl
      · exact ⟨older, List.mem_append_left _ olderMember, olderHeight.trans height⟩
      · exact ⟨old, by simp, height⟩
    · exact ⟨old, by simp [rested], height⟩

end Candle

theorem buildCandles_eq (swaps : List Swap) (pairs : List Pair) :
    buildCandles swaps pairs = Candle.addAll [] (swapCandles pairs swaps) := rfl

theorem buildCandles_apart (swaps : List Swap) (pairs : List Pair) :
    Candle.Apart (buildCandles swaps pairs) := by
  rw [buildCandles_eq]
  exact Candle.addAll_apart _ List.Pairwise.nil

/-- Every minute of a pair comes to what its swaps come to one by one. -/
theorem merged_buildCandles (pair : String) (time : Int) (swaps : List Swap) (pairs : List Pair) :
    Candle.merged ((buildCandles swaps pairs).filter (Candle.isAt pair time)) =
      Candle.merged ((swapCandles pairs swaps).filter (Candle.isAt pair time)) := by
  rw [buildCandles_eq]
  exact Candle.merged_addAll pair time _ List.Pairwise.nil

theorem candle?_height {pairs : List Pair} {op : Swap} {c : Candle}
    (made : op.candle? pairs = some c) : c.height = op.height := by
  obtain ⟨pair, _, given⟩ := Option.bind_eq_some_iff.mp made
  generalize (if op.offerDenom = pair.base.denom then (op.offerAmount, op.returnAmount)
    else (op.returnAmount, op.offerAmount)) = amounts at given
  dsimp only at given
  split at given
  · cases given
  · cases given
    rfl

/-- A candle opens at the height of one of the swaps it is built of. -/
theorem mem_buildCandles {swaps : List Swap} {pairs : List Pair} {c : Candle}
    (member : c ∈ buildCandles swaps pairs) : ∃ op ∈ swaps, op.height = c.height := by
  rw [buildCandles_eq] at member
  obtain ⟨single, singleMember, height⟩ := Candle.mem_addAll member
  obtain ⟨op, opMember, made⟩ := List.mem_filterMap.mp singleMember
  exact ⟨op, opMember, (candle?_height made).symm.trans height⟩

end PoolIndexer
