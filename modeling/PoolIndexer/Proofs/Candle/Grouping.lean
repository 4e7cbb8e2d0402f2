import Mathlib.Algebra.Ring.Int.Defs
import Mathlib.Data.List.Forall2
import Mathlib.Data.List.Nodup
import PoolIndexer.Proofs.Candle.Finite
import PoolIndexer.Proofs.FirstMet

/-! What each candle says. The candles of swaps are one for every pair and minute with a swap that
moves base units, in the order in which these are first met, and each sums up the swaps of its pair
and minute: their first and last price, their extremes and the base units that they move. -/
namespace PoolIndexer

namespace Binary64

/-- `x ≤ y` as numbers; what is no number is not compared. -/
def AtMost (x y : Binary64) : Prop := x.isNaN = false ∧ y.isNaN = false ∧ x.rank ≤ y.rank

theorem AtMost.rfl {x : Binary64} (number : x.isNaN = false) : x.AtMost x :=
  ⟨number, number, Int.le_refl _⟩

theorem AtMost.trans {x y z : Binary64} (below : x.AtMost y) (above : y.AtMost z) : x.AtMost z :=
  ⟨below.1, above.2.1, Int.le_trans below.2.2 above.2.2⟩

section

variable {x y : Binary64} (numberX : x.isNaN = false) (numberY : y.isNaN = false)
include numberX numberY

theorem atMost_max : x.AtMost (x.max y) ∧ y.AtMost (x.max y) := by
  have number := max_not_isNaN numberX numberY
  have rank := max_rank numberX numberY
  exact ⟨⟨numberX, number, by omega⟩, ⟨numberY, number, by omega⟩⟩

theorem min_atMost : (x.min y).AtMost x ∧ (x.min y).AtMost y := by
  have number := min_not_isNaN numberX numberY
  have rank := min_rank numberX numberY
  exact ⟨⟨number, numberX, by omega⟩, ⟨number, numberY, by omega⟩⟩

end
end Binary64

/-! ## Pairs and minutes -/

namespace Swap

/-- What the swap pays for a base unit of the pair, in quote units. -/
def price (op : Swap) (pair : Pair) : Binary64 :=
  Decimal.displayRatio (op.traded pair).2 (op.traded pair).1

theorem price_not_isNaN (op : Swap) (pair : Pair) : (op.price pair).isNaN = false :=
  Decimal.displayRatio_not_isNaN _ _

/-- The minute that the swap falls into. -/
def minute (op : Swap) : Int := Timestamp.bucket op.time Timestamp.candleInterval

/-- The registered pair and the minute that the swap counts for. It counts for none if its pair is
unknown or no base units change hands. -/
def site? (pairs : List Pair) (op : Swap) : Option (Pair × Int) :=
  (findByAddress pairs op.pairAddress).bind fun pair =>
    if (op.traded pair).1 = 0 then none else some (pair, op.minute)

variable {pairs : List Pair} {op : Swap}

theorem site?_eq_some {pair : Pair} {time : Int} : op.site? pairs = some (pair, time) ↔
    findByAddress pairs op.pairAddress = some pair ∧ (op.traded pair).1 ≠ 0 ∧ op.minute = time := by
  unfold site?
  cases findByAddress pairs op.pairAddress with
  | none => simp
  | some found =>
    simp only [Option.bind_some, Option.some.injEq]
    constructor
    · intro counts
      split at counts
      · cases counts
      · cases counts
        exact ⟨rfl, ‹_›, rfl⟩
    · rintro ⟨rfl, moves, rfl⟩
      rw [if_neg moves]

theorem candle?_eq_map (pairs : List Pair) (op : Swap) :
    op.candle? pairs = (op.site? pairs).map fun site => op.candleOf site.1 := by
  refine Option.ext fun c => ?_
  simp only [candle?_eq_some, Option.map_eq_some_iff, Prod.exists, site?_eq_some]
  constructor
  · rintro ⟨pair, found, moves, made⟩
    exact ⟨pair, op.minute, ⟨found, moves, rfl⟩, made⟩
  · rintro ⟨pair, _, ⟨found, moves, _⟩, made⟩
    exact ⟨pair, found, moves, made⟩

end Swap

theorem swapCandles_eq (pairs : List Pair) (swaps : List Swap) :
    swapCandles pairs swaps =
      swaps.filterMap fun op => (op.site? pairs).map fun site => op.candleOf site.1 := by
  simp only [swapCandles, Swap.candle?_eq_map]

namespace Candle

/-- The name of the candle's pair, and the minute. -/
def place (c : Candle) : String × Int := (c.pair, c.time)

theorem add_places (later : Candle) (candles : List Candle) :
    (add later candles).map place =
      if later.place ∈ candles.map place then candles.map place
      else candles.map place ++ [later.place] := by
  induction candles with
  | nil => rfl
  | cons first rest ih =>
    simp only [add]
    by_cases meets : first.pair = later.pair ∧ first.time = later.time
    · have same : later.place = first.place := Prod.ext meets.1.symm meets.2.symm
      have kept : (first.extend later).place = first.place := rfl
      simp [meets, same, kept]
    · have different : ¬ later.place = first.place := fun same =>
        meets ⟨(congrArg Prod.fst same).symm, (congrArg Prod.snd same).symm⟩
      rw [if_neg meets, List.map_cons, ih]
      by_cases present : later.place ∈ rest.map place
      · simp only [List.map_cons, List.mem_cons, present, or_true, if_true]
      · simp only [List.map_cons, List.mem_cons, present, different, or_false, if_false,
          List.cons_append]

/-- Candles that are put into a list are found there by the places in which they first came. -/
theorem addAll_places (later : List Candle) :
    (addAll [] later).map place = (later.map place).eraseDups := by
  induction later using List.reverseRecOn with
  | nil => rfl
  | append_singleton later last ih =>
    have step : addAll [] (later ++ [last]) = add last (addAll [] later) := by simp [addAll]
    rw [step, add_places, List.map_append, List.map_singleton, eraseDups_concat, ih]
    simp only [List.mem_eraseDups]

/-! ## What a candle sums up -/

/-- The candle sums up swaps of a pair in a minute: it has the height of the first one and opens
with its price, closes with the price of the last one, reaches up and down to their extreme prices,
and has the base units that all of them move. -/
structure Sums (c : Candle) (pair : Pair) (time : Int) (group : List Swap) : Prop where
  name : c.pair = pair.name
  begins : c.time = time
  opens : ∃ op, group.head? = some op ∧ c.openPrice = op.price pair ∧ c.height = op.height ∧
    c.key = RowKey.join [Numeral.text time, pair.name, Numeral.text op.height]
  closes : ∃ op, group.getLast? = some op ∧ c.close = op.price pair
  high : c.high ∈ group.map (·.price pair) ∧ ∀ op ∈ group, (op.price pair).AtMost c.high
  low : c.low ∈ group.map (·.price pair) ∧ ∀ op ∈ group, c.low.AtMost (op.price pair)
  volume : c.volume = (group.map fun op => (op.traded pair).1).sum

section

variable {pair : Pair} {time : Int} {op : Swap} {group : List Swap} {c later : Candle}

theorem sums_single (pair : Pair) (op : Swap) : (op.candleOf pair).Sums pair op.minute [op] where
  name := rfl
  begins := rfl
  opens := ⟨op, rfl, rfl, rfl, rfl⟩
  closes := ⟨op, rfl, rfl⟩
  high := ⟨List.mem_singleton_self _,
    List.forall_mem_singleton.mpr (.rfl (op.price_not_isNaN pair))⟩
  low := ⟨List.mem_singleton_self _,
    List.forall_mem_singleton.mpr (.rfl (op.price_not_isNaN pair))⟩
  volume := by simp [Swap.candleOf, single]

theorem Sums.high_not_isNaN (sums : c.Sums pair time group) : c.high.isNaN = false := by
  obtain ⟨op, _, same⟩ := List.mem_map.mp sums.high.1
  rw [← same]
  exact op.price_not_isNaN pair

theorem Sums.low_not_isNaN (sums : c.Sums pair time group) : c.low.isNaN = false := by
  obtain ⟨op, _, same⟩ := List.mem_map.mp sums.low.1
  rw [← same]
  exact op.price_not_isNaN pair

/-- A swap before the others of its minute. -/
theorem Sums.cons (sums : later.Sums pair time group) (here : op.minute = time) :
    ((op.candleOf pair).extend later).Sums pair time (op :: group) := by
  have number := op.price_not_isNaN pair
  obtain ⟨last, isLast, close⟩ := sums.closes
  have filled : group ≠ [] := by
    rintro rfl
    cases isLast
  have high : ((op.candleOf pair).extend later).high = (op.price pair).max later.high := rfl
  have low : ((op.candleOf pair).extend later).low = (op.price pair).min later.low := rfl
  refine ⟨rfl, here, ⟨op, rfl, rfl, rfl, by rw [← here]; rfl⟩, ⟨last, ?_, close⟩, ⟨?_, ?_⟩,
    ⟨?_, ?_⟩, ?_⟩
  · rw [List.getLast?_cons_of_ne_nil filled, isLast]
  · rw [high, List.map_cons, List.mem_cons]
    rcases Binary64.max_eq_or (op.price pair) later.high with same | same
    · exact .inl same
    · exact .inr (by rw [same]; exact sums.high.1)
  · obtain ⟨first, others⟩ := Binary64.atMost_max number sums.high_not_isNaN
    exact List.forall_mem_cons.mpr ⟨first, fun op member => (sums.high.2 op member).trans others⟩
  · rw [low, List.map_cons, List.mem_cons]
    rcases Binary64.min_eq_or (op.price pair) later.low with same | same
    · exact .inl same
    · exact .inr (by rw [same]; exact sums.low.1)
  · obtain ⟨first, others⟩ := Binary64.min_atMost number sums.low_not_isNaN
    exact List.forall_mem_cons.mpr ⟨first, fun op member => others.trans (sums.low.2 op member)⟩
  · rw [List.map_cons, List.sum_cons, ← sums.volume]
    rfl

/-- What the candles of single swaps come to sums these up. -/
theorem sums_of_merged (filled : group ≠ []) (together : ∀ op ∈ group, op.minute = time)
    (comesTo : merged (group.map (·.candleOf pair)) = some c) : c.Sums pair time group := by
  induction group generalizing c with
  | nil => exact absurd rfl filled
  | cons op rest ih =>
    obtain ⟨here, others⟩ := List.forall_mem_cons.mp together
    rw [List.map_cons, merged] at comesTo
    cases behind : merged (rest.map (·.candleOf pair)) with
    | none =>
      obtain rfl : rest = [] := List.map_eq_nil_iff.mp (merged_eq_none.mp behind)
      rw [behind] at comesTo
      obtain rfl : op.candleOf pair = c := by simpa using comesTo
      exact here ▸ sums_single pair op
    | some later =>
      rw [behind] at comesTo
      obtain rfl : (op.candleOf pair).extend later = c := by simpa using comesTo
      have more : rest ≠ [] := by
        rintro rfl
        cases behind
      exact (ih more others behind).cons here

/-- A candle opens and closes between its low and its high. -/
theorem Sums.within (sums : c.Sums pair time group) :
    (c.low.AtMost c.openPrice ∧ c.openPrice.AtMost c.high) ∧
      c.low.AtMost c.close ∧ c.close.AtMost c.high := by
  obtain ⟨first, isFirst, openPrice, -⟩ := sums.opens
  obtain ⟨last, isLast, close⟩ := sums.closes
  have firstMember := List.mem_of_head? isFirst
  have lastMember := List.mem_of_getLast? isLast
  rw [openPrice, close]
  exact ⟨⟨sums.low.2 first firstMember, sums.high.2 first firstMember⟩,
    sums.low.2 last lastMember, sums.high.2 last lastMember⟩

end

/-! ## Names -/

theorem add_filter (name : String) (later : Candle) (candles : List Candle) :
    (add later candles).filter (·.pair == name) =
      if later.pair = name then add later (candles.filter (·.pair == name))
      else candles.filter (·.pair == name) := by
  induction candles with
  | nil => by_cases its : later.pair = name <;> simp [add, its]
  | cons first rest ih =>
    simp only [add]
    by_cases meets : first.pair = later.pair ∧ first.time = later.time
    · have kept : (first.extend later).pair = first.pair := rfl
      by_cases its : later.pair = name
      · simp [meets, kept, its, add]
      · simp [meets, kept, its]
    · rw [if_neg meets]
      by_cases its : later.pair = name
      · by_cases here : first.pair = name
        · have apart : ¬ first.time = later.time := fun same => meets ⟨here.trans its.symm, same⟩
          simp [its, here, add, apart, ih]
        · simp [its, here, ih]
      · by_cases here : first.pair = name
        · simp [its, here, ih]
        · simp [its, here, ih]

/-- The candles of one name are built of the candles of that name. -/
theorem addAll_filter (name : String) (later candles : List Candle) :
    (addAll candles later).filter (·.pair == name) =
      addAll (candles.filter (·.pair == name)) (later.filter (·.pair == name)) := by
  induction later generalizing candles with
  | nil => rfl
  | cons first rest ih =>
    have step : addAll candles (first :: rest) = addAll (add first candles) rest := rfl
    rw [step, ih, add_filter]
    by_cases its : first.pair = name
    · simp [its, addAll]
    · simp [its]

/-- No base units are lost. -/
theorem addAll_volume (later candles : List Candle) :
    ((addAll candles later).map (·.volume)).sum =
      (candles.map (·.volume)).sum + (later.map (·.volume)).sum := by
  have one : ∀ (c : Candle) (candles : List Candle),
      ((add c candles).map (·.volume)).sum = (candles.map (·.volume)).sum + c.volume := by
    intro c candles
    induction candles with
    | nil => simp [add]
    | cons first rest ih =>
      simp only [add]
      split
      · simp only [List.map_cons, List.sum_cons, extend]
        omega
      · simp only [List.map_cons, List.sum_cons, ih]
        omega
  induction later generalizing candles with
  | nil => simp [addAll]
  | cons first rest ih =>
    have step : addAll candles (first :: rest) = addAll (add first candles) rest := rfl
    rw [step, ih, one, List.map_cons, List.sum_cons, Int.add_assoc]

end Candle

/-! ## The candles of swaps -/

/-- Candles are built without regard to values. -/
theorem buildCandles_valued (book : PriceBook) (swaps : List Swap) (pairs : List Pair) :
    buildCandles (swaps.map (·.valued book)) pairs = buildCandles swaps pairs := by
  unfold buildCandles
  rw [List.filterMap_map]
  rfl

section

variable {pairs : List Pair} {swaps : List Swap} {pair other : Pair} {time : Int}
  (names : (pairs.map Pair.name).Nodup)

theorem swapCandles_places (pairs : List Pair) (swaps : List Swap) :
    (swapCandles pairs swaps).map Candle.place =
      (swaps.filterMap (Swap.site? pairs)).map fun site => (site.1.name, site.2) := by
  induction swaps with
  | nil => rfl
  | cons op rest ih =>
    simp only [swapCandles_eq, List.filterMap_cons] at ih ⊢
    cases counts : op.site? pairs with
    | none => exact ih
    | some site =>
      obtain ⟨_, _, minute⟩ := Swap.site?_eq_some.mp counts
      have place : (op.candleOf site.1).place = (site.1.name, site.2) := by rw [← minute]; rfl
      simp only [Option.map_some, List.map_cons, place, ih]

theorem registered_of_mem_sites {site : Pair × Int}
    (member : site ∈ swaps.filterMap (Swap.site? pairs)) : site.1 ∈ pairs := by
  obtain ⟨op, _, counts⟩ := List.mem_filterMap.mp member
  exact List.mem_of_find?_eq_some (Swap.site?_eq_some.mp counts).1

include names

theorem name_eq_iff (registered : pair ∈ pairs) (registeredToo : other ∈ pairs) :
    other.name = pair.name ↔ other = pair :=
  ⟨List.inj_on_of_nodup_map names registeredToo registered, congrArg Pair.name⟩

/-- The candles of a pair and minute are those of the swaps that count for them. -/
theorem swapCandles_isAt (registered : pair ∈ pairs) :
    (swapCandles pairs swaps).filter (Candle.isAt pair.name time) =
      (swaps.filter fun op => op.site? pairs = some (pair, time)).map (·.candleOf pair) := by
  induction swaps with
  | nil => rfl
  | cons op rest ih =>
    simp only [swapCandles_eq, List.filterMap_cons, List.filter_cons] at ih ⊢
    cases counts : op.site? pairs with
    | none => simpa using ih
    | some site =>
      obtain ⟨other, minute⟩ := site
      obtain ⟨found, _, begins⟩ := Swap.site?_eq_some.mp counts
      have named : other.name = pair.name ↔ other = pair :=
        name_eq_iff names registered (List.mem_of_find?_eq_some found)
      have here : (op.candleOf other).isAt pair.name time ↔ other = pair ∧ minute = time := by
        rw [Candle.isAt_iff, ← named, ← begins]
        exact Iff.rfl
      by_cases its : other = pair ∧ minute = time
      · obtain ⟨rfl, rfl⟩ := its
        simpa [here] using ih
      · simpa [here, its] using ih

/-- The candles of a pair move the base units that its swaps move. -/
theorem swapCandles_volume (registered : pair ∈ pairs) :
    (((swapCandles pairs swaps).filter (·.pair == pair.name)).map (·.volume)).sum =
      ((swaps.filter fun op => findByAddress pairs op.pairAddress = some pair).map
        fun op => (op.traded pair).1).sum := by
  induction swaps with
  | nil => rfl
  | cons op rest ih =>
    simp only [swapCandles_eq, List.filterMap_cons, List.filter_cons] at ih ⊢
    cases found : findByAddress pairs op.pairAddress with
    | none =>
      have none : op.site? pairs = none := by simp [Swap.site?, found]
      simpa [none] using ih
    | some other =>
      have named : other.name = pair.name ↔ other = pair :=
        name_eq_iff names registered (List.mem_of_find?_eq_some found)
      by_cases moves : (op.traded other).1 = 0
      · have none : op.site? pairs = none := by simp [Swap.site?, found, moves]
        by_cases its : other = pair
        · subst its
          simpa [none, moves] using ih
        · simpa [none, its] using ih
      · have counts : op.site? pairs = some (other, op.minute) :=
          Swap.site?_eq_some.mpr ⟨found, moves, rfl⟩
        have name : (op.candleOf other).pair = other.name := rfl
        have volume : (op.candleOf other).volume = (op.traded other).1 := rfl
        by_cases its : other = pair
        · subst its
          simpa [counts, name, volume] using ih
        · have different : ¬ other.name = pair.name := mt named.mp its
          simpa [counts, name, different, its] using ih

theorem buildCandles_places (swaps : List Swap) :
    (buildCandles swaps pairs).map Candle.place =
      (swaps.filterMap (Swap.site? pairs)).eraseDups.map fun site => (site.1.name, site.2) := by
  rw [buildCandles_eq, Candle.addAll_places, swapCandles_places, eraseDups_map]
  intro site member site' member' same
  obtain ⟨name, time⟩ := Prod.mk.inj same
  refine Prod.ext ((name_eq_iff names ?_ ?_).mp name) time
  · exact registered_of_mem_sites member'
  · exact registered_of_mem_sites member

/-- A candle of a pair and minute sums up the swaps that count for them. -/
theorem buildCandles_sums (registered : pair ∈ pairs) {c : Candle}
    (member : c ∈ buildCandles swaps pairs) (place : c.place = (pair.name, time)) :
    c.Sums pair time (swaps.filter fun op => op.site? pairs = some (pair, time)) := by
  obtain ⟨name, begins⟩ := Prod.mk.inj place
  have comesTo := Candle.merged_of_mem (buildCandles_apart swaps pairs) member
  rw [merged_buildCandles, name, begins, swapCandles_isAt names registered] at comesTo
  refine Candle.sums_of_merged ?_ ?_ comesTo
  · intro none
    rw [none] at comesTo
    cases comesTo
  · intro op among
    have counts := of_decide_eq_true (List.mem_filter.mp among).2
    exact (Swap.site?_eq_some.mp counts).2.2

/-- There is one candle for each registered pair and minute with a swap that moves base units, in
the order in which these are first met, and it sums up their swaps. Its prices lie between its low
and its high, and the candles of a pair together move what its swaps move. -/
theorem buildCandles_grouped (swaps : List Swap) :
    List.Forall₂ (fun site c => c.Sums site.1 site.2
        (swaps.filter fun op => op.site? pairs = some site))
      (swaps.filterMap (Swap.site? pairs)).eraseDups (buildCandles swaps pairs) ∧
    (∀ c ∈ buildCandles swaps pairs, (c.low.AtMost c.openPrice ∧ c.openPrice.AtMost c.high) ∧
      c.low.AtMost c.close ∧ c.close.AtMost c.high) ∧
    ∀ pair ∈ pairs,
      (((buildCandles swaps pairs).filter (·.pair == pair.name)).map (·.volume)).sum =
        ((swaps.filter fun op => findByAddress pairs op.pairAddress = some pair).map
          fun op => (op.traded pair).1).sum := by
  have places := buildCandles_places names swaps
  have paired : List.Forall₂ (fun site c => (site.1.name, site.2) = c.place)
      (swaps.filterMap (Swap.site? pairs)).eraseDups (buildCandles swaps pairs) := by
    rw [← List.forall₂_map_left_iff (R := fun place c => place = Candle.place c), ← places]
    exact List.forall₂_map_left_iff.mpr (List.forall₂_same.mpr fun _ _ => rfl)
  have sums : ∀ site ∈ (swaps.filterMap (Swap.site? pairs)).eraseDups,
      ∀ c ∈ buildCandles swaps pairs, c.place = (site.1.name, site.2) →
        c.Sums site.1 site.2 (swaps.filter fun op => op.site? pairs = some site) :=
    fun site met c member =>
      buildCandles_sums names (registered_of_mem_sites (List.mem_eraseDups.mp met)) member
  refine ⟨List.forall₂_iff_zip.mpr ⟨paired.length_eq, fun {site c} together => ?_⟩, ?_, ?_⟩
  · obtain ⟨met, member⟩ := List.of_mem_zip together
    exact sums site met c member (List.forall₂_zip paired together).symm
  · intro c member
    obtain ⟨site, met, same⟩ : ∃ site ∈ (swaps.filterMap (Swap.site? pairs)).eraseDups,
        (site.1.name, site.2) = c.place :=
      List.mem_map.mp (places ▸ List.mem_map_of_mem member)
    exact (sums site met c member same.symm).within
  · intro pair registered
    rw [buildCandles_eq, Candle.addAll_filter, Candle.addAll_volume,
      ← swapCandles_volume names registered]
    simp

end

/-! Swaps of two pairs in two minutes, in both directions, and one that moves no base units. -/

def groupedPairs : List Pair :=
  [minutePair,
    { minutePair with base := .native "atom", quote := .native "orai", address := "hub" }]

def groupedSwaps : List Swap :=
  [minuteSwap 7 100 300,
    { minuteSwap 8 50 20 with pairAddress := "hub", askDenom := "atom" },
    { minuteSwap 9 800 200 with offerDenom := "usdt", askDenom := "orai" },
    { minuteSwap 10 1 0 with offerDenom := "usdt", askDenom := "orai" },
    { minuteSwap 11 200 500 with time := 75 }]

theorem buildCandles_grouped_interleaved :
    (groupedPairs.map Pair.name).Nodup ∧
    List.Forall₂ (fun site c => c.Sums site.1 site.2
        (groupedSwaps.filter fun op => op.site? groupedPairs = some site))
      (groupedSwaps.filterMap (Swap.site? groupedPairs)).eraseDups
      (buildCandles groupedSwaps groupedPairs) ∧
    (buildCandles groupedSwaps groupedPairs).map Candle.place =
      [("orai-usdt", 0), ("atom-orai", 0), ("orai-usdt", 60)] ∧
    (((buildCandles groupedSwaps groupedPairs).filter (·.pair == "orai-usdt")).map
      (·.volume)).sum = 500 := by
  have names : (groupedPairs.map Pair.name).Nodup := by decide +kernel
  obtain ⟨grouped, -, volumes⟩ := buildCandles_grouped names groupedSwaps
  have sums := volumes minutePair List.mem_cons_self
  exact ⟨names, grouped, by decide +kernel, sums.trans (by decide +kernel)⟩

end PoolIndexer
