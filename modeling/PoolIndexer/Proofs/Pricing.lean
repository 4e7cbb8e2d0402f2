import PoolIndexer.Proofs.Division
import PoolIndexer.Proofs.Result.Lists

/-! The pairs that a price is read off. Where no two pairs are of the same two assets, a price comes
from the pair of the asset and the hub and from that of the hub and USDT, wherever these stand in
the list and whatever else is in it. -/
namespace PoolIndexer

theorem Pair.trades_iff {pair : Pair} {a b : String} : pair.trades a b ↔
    pair.base.denom = a ∧ pair.quote.denom = b ∨ pair.base.denom = b ∧ pair.quote.denom = a := by
  simp [trades]

/-- Pairs that trade the same two assets. -/
theorem Pair.trades_of_common {pair pair' : Pair} {a b : String} (first : pair.trades a b)
    (second : pair'.trades a b) : pair'.trades pair.base.denom pair.quote.denom := by
  rw [trades_iff] at first second ⊢
  rcases first with ⟨rfl, rfl⟩ | ⟨rfl, rfl⟩
  · exact second
  · exact second.symm

namespace PriceBook

/-- No two pairs trade the same two assets. -/
def Apart (pairs : List Pair) : Prop :=
  pairs.Pairwise fun pair later => ¬ later.trades pair.base.denom pair.quote.denom

instance (pairs : List Pair) : Decidable (Apart pairs) :=
  inferInstanceAs (Decidable (pairs.Pairwise _))

/-- A price may be read off the pair, that of the hub or that of an asset by way of it. -/
def ReadOff (hub usdt : String) (pair : Pair) : Prop :=
  pair.trades hub usdt ∨ ∃ denom, denom ≠ usdt ∧ denom ≠ hub ∧ pair.trades denom hub

/-- A second list holds the same pairs of two assets, and they have the same pools. -/
structure Agree (a b : String) (pairs pairs' : List Pair) (pools pools' : Snapshot) : Prop where
  listed : ∀ pair : Pair, pair.trades a b → (pair ∈ pairs' ↔ pair ∈ pairs)
  held : ∀ pair ∈ pairs, pair.trades a b → pools'.get? pair.address = pools.get? pair.address

/-- The prices of all assets, each by the pairs that it is read off. -/
structure Prices (hub usdt : String) (pairs : List Pair) (pools : Snapshot) (hubPrice : Binary64)
    (book : PriceBook) : Prop where
  unit : book.price usdt = .one
  own : hub ≠ usdt → book.price hub = hubPrice
  direct : ∀ pair ∈ pairs, pair.trades hub usdt → ratioOf pools pair hub = .ok hubPrice
  hubless : (∀ pair ∈ pairs, ¬ pair.trades hub usdt) → hubPrice = .zero
  viaHub : ∀ denom, denom ≠ usdt → denom ≠ hub → ∀ pair ∈ pairs, pair.trades denom hub →
    ∃ ratio, ratioOf pools pair denom = .ok ratio ∧ book.price denom = ratio.mul hubPrice
  unpriced : ∀ denom, denom ≠ usdt → denom ≠ hub → (∀ pair ∈ pairs, ¬ pair.trades denom hub) →
    book.price denom = .zero

variable {hub usdt : String} {pairs pairs' : List Pair} {pools pools' : Snapshot}
  {book book' : PriceBook}

/-! ## The pair of two assets -/

theorem findByDenoms_none {a b : String} :
    findByDenoms pairs a b = none ↔ ∀ pair ∈ pairs, ¬ pair.trades a b :=
  List.find?_eq_none

theorem findByDenoms_some {a b : String} {pair : Pair}
    (found : findByDenoms pairs a b = some pair) : pair ∈ pairs ∧ pair.trades a b :=
  ⟨List.mem_of_find?_eq_some found,
    List.find?_some (p := fun pair : Pair => pair.trades a b) found⟩

theorem findByDenoms_iff (apart : Apart pairs) {a b : String} {pair : Pair} :
    findByDenoms pairs a b = some pair ↔ pair ∈ pairs ∧ pair.trades a b := by
  refine ⟨findByDenoms_some, ?_⟩
  rintro ⟨member, trades⟩
  induction pairs with
  | nil => cases member
  | cons first rest ih =>
    obtain ⟨others, apart⟩ := List.pairwise_cons.mp apart
    rcases List.mem_cons.mp member with rfl | later
    · exact List.find?_cons_of_pos trades
    · have skipped : ¬ first.trades a b := fun earlier =>
        others pair later (Pair.trades_of_common earlier trades)
      exact (List.find?_cons_of_neg (p := fun pair : Pair => pair.trades a b) skipped).trans
        (ih apart later)

/-- Pairs of other assets do not matter, nor does the order. -/
theorem findByDenoms_congr (apart : Apart pairs) {a b : String}
    (listed : ∀ pair : Pair, pair.trades a b → (pair ∈ pairs' ↔ pair ∈ pairs)) :
    findByDenoms pairs' a b = findByDenoms pairs a b := by
  cases found : findByDenoms pairs' a b with
  | none =>
    symm
    rw [findByDenoms_none] at found ⊢
    exact fun pair member trades => found pair ((listed pair trades).mpr member) trades
  | some pair =>
    obtain ⟨member, trades⟩ := findByDenoms_some found
    symm
    exact (findByDenoms_iff apart).mpr ⟨(listed pair trades).mp member, trades⟩

theorem defines_iff (apart : Apart pairs) {pair : Pair} :
    Defines hub usdt pairs pair ↔ pair ∈ pairs ∧ ReadOff hub usdt pair := by
  simp only [Defines, ReadOff, findByDenoms_iff apart]
  constructor
  · rintro (⟨member, direct⟩ | ⟨denom, notUsdt, notHub, member, trades⟩)
    · exact ⟨member, .inl direct⟩
    · exact ⟨member, .inr ⟨denom, notUsdt, notHub, trades⟩⟩
  · rintro ⟨member, direct | ⟨denom, notUsdt, notHub, trades⟩⟩
    · exact .inl ⟨member, direct⟩
    · exact .inr ⟨denom, notUsdt, notHub, member, trades⟩

/-! ## The scan -/

/-- The ratio of an asset to the hub is the one in the direction of the asset. -/
theorem priceViaHub_found {hubPrice : Binary64} {denom : String} {pair : Pair}
    (found : findByDenoms pairs denom hub = some pair) (notHub : denom ≠ hub) {price : Binary64} :
    priceViaHub hub hubPrice pairs pools denom = .ok price ↔
      ∃ ratio, ratioOf pools pair denom = .ok ratio ∧ price = ratio.mul hubPrice := by
  have direction : (if pair.base.denom = hub then .quoteInBase else .baseInQuote) =
      if pair.base.denom = denom then RatioDirection.baseInQuote else .quoteInBase := by
    rcases Pair.trades_iff.mp (findByDenoms_some found).2 with ⟨base, _⟩ | ⟨base, _⟩
    · rw [base, if_neg notHub, if_pos rfl]
    · rw [base, if_pos rfl, if_neg notHub.symm]
  rw [priceViaHub, ratioOf, found]
  dsimp only
  cases pools.get? pair.address with
  | none =>
    constructor
    · intro given
      exact ⟨.zero, rfl, (Except.ok.inj given).symm⟩
    · rintro ⟨ratio, given, rfl⟩
      cases given
      rfl
  | some pool =>
    dsimp only
    rw [direction, Result.return_ok]

theorem priceViaHub_none {hubPrice : Binary64} {denom : String}
    (found : findByDenoms pairs denom hub = none) :
    priceViaHub hub hubPrice pairs pools denom = .ok .zero := by
  rw [priceViaHub, found]

/-- What is computed for keys, looked up by a key. -/
theorem lookup_mapM {f : String → Except ArithmeticError Binary64} {keys : List String}
    {entries : List (String × Binary64)}
    (mapped : (keys.mapM fun k => do return (k, ← f k)) = .ok entries) {key : String}
    (among : key ∈ keys) : ∃ value, entries.lookup key = some value ∧ f key = .ok value := by
  rw [Result.mapM_iff] at mapped
  induction mapped with
  | nil => cases among
  | @cons first entry keys entries done rest ih =>
    obtain ⟨value, given, rfl⟩ := Result.return_ok.mp done
    by_cases here : key = first
    · subst here
      exact ⟨value, List.lookup_cons_self, given⟩
    · have later : key ∈ keys := (List.mem_cons.mp among).resolve_left here
      rw [List.lookup_cons, beq_eq_false_iff_ne.mpr here]
      exact ih later

/-- Every price other than those of USDT and the hub is the one by way of the hub, also where the
asset is in no pair. -/
theorem resolve_cases (resolved : resolve hub usdt pairs pools = .ok book) :
    book.usdt = usdt ∧ book.hub = hub ∧ hubPriceOf hub usdt pairs pools = .ok book.hubPrice ∧
      ∀ denom, denom ≠ usdt → denom ≠ hub →
        priceViaHub hub book.hubPrice pairs pools denom = .ok (book.price denom) := by
  obtain ⟨hubPrice, priced, mapping⟩ := Result.bind_ok.mp resolved
  obtain ⟨others, mapped, rfl⟩ := Result.return_ok.mp mapping
  refine ⟨rfl, rfl, priced, fun denom notUsdt notHub => ?_⟩
  have price : PriceBook.price ⟨usdt, hub, hubPrice, others⟩ denom =
      (others.lookup denom).getD .zero := by
    rw [PriceBook.price, if_neg notUsdt, if_neg notHub]
  rw [price]
  dsimp only
  by_cases listed : denom ∈ (pairs.flatMap (·.assetInfos)).map (·.denom)
  · have among : denom ∈ (((pairs.flatMap (·.assetInfos)).map (·.denom)).filter
        fun d => d != usdt && d != hub).eraseDups := by
      rw [List.mem_eraseDups, List.mem_filter]
      exact ⟨listed, by simp [notUsdt, notHub]⟩
    obtain ⟨value, found, done⟩ := lookup_mapM mapped among
    rw [done, found, Option.getD_some]
  · have unpaired : findByDenoms pairs denom hub = none :=
      Option.eq_none_iff_forall_ne_some.mpr fun pair found => listed (mem_denoms_of_found found)
    have absent : others.lookup denom = none := by
      rw [List.lookup_eq_none_iff]
      intro entry member
      obtain ⟨key, among, done⟩ := Result.mem_mapM mapped member
      obtain ⟨value, _, rfl⟩ := Result.return_ok.mp done
      rw [List.mem_eraseDups, List.mem_filter] at among
      exact bne_iff_ne.mpr fun (same : denom = key) => listed (same ▸ among.1)
    rw [priceViaHub_none unpaired, absent, Option.getD_none]

theorem resolve_reads (apart : Apart pairs) (resolved : resolve hub usdt pairs pools = .ok book) :
    Prices hub usdt pairs pools book.hubPrice book := by
  obtain ⟨sameUsdt, sameHub, hubPriced, priced⟩ := resolve_cases resolved
  refine ⟨?_, fun notUsdt => ?_, fun pair member trades => ?_, fun none => ?_,
    fun denom notUsdt notHub pair member trades => ?_, fun denom notUsdt notHub none => ?_⟩
  · rw [price, sameUsdt, if_pos rfl]
  · rw [price, sameUsdt, sameHub, if_neg notUsdt, if_pos rfl]
  · rw [hubPriceOf, (findByDenoms_iff apart).mpr ⟨member, trades⟩] at hubPriced
    exact hubPriced
  · rw [hubPriceOf, findByDenoms_none.mpr none] at hubPriced
    exact (Except.ok.inj hubPriced).symm
  · exact (priceViaHub_found ((findByDenoms_iff apart).mpr ⟨member, trades⟩) notHub).mp
      (priced denom notUsdt notHub)
  · have nothing := priced denom notUsdt notHub
    rw [priceViaHub_none (findByDenoms_none.mpr none)] at nothing
    exact (Except.ok.inj nothing).symm

/-! ## Other lists -/

section

variable {a b : String} (agree : Agree a b pairs pairs' pools pools')
include agree

theorem Agree.find (apart : Apart pairs) : findByDenoms pairs' a b = findByDenoms pairs a b :=
  findByDenoms_congr apart agree.listed

theorem Agree.pool {pair : Pair} (found : findByDenoms pairs a b = some pair) :
    pools'.get? pair.address = pools.get? pair.address :=
  agree.held pair (findByDenoms_some found).1 (findByDenoms_some found).2

end

theorem hubPriceOf_congr (apart : Apart pairs) (agree : Agree hub usdt pairs pairs' pools pools') :
    hubPriceOf hub usdt pairs' pools' = hubPriceOf hub usdt pairs pools := by
  rw [hubPriceOf, hubPriceOf, agree.find apart]
  cases found : findByDenoms pairs hub usdt with
  | none => rfl
  | some pair => simp only [ratioOf, agree.pool found]

theorem priceViaHub_congr (apart : Apart pairs) {denom : String} {hubPrice : Binary64}
    (agree : Agree denom hub pairs pairs' pools pools') :
    priceViaHub hub hubPrice pairs' pools' denom = priceViaHub hub hubPrice pairs pools denom := by
  rw [priceViaHub, priceViaHub, agree.find apart]
  cases found : findByDenoms pairs denom hub with
  | none => rfl
  | some pair => simp only [agree.pool found]

/-- A price is the same wherever its two pairs are, whatever other pairs and pools there are. -/
theorem price_congr (apart : Apart pairs) (resolved : resolve hub usdt pairs pools = .ok book)
    (resolved' : resolve hub usdt pairs' pools' = .ok book') {denom : String}
    (hubAgree : Agree hub usdt pairs pairs' pools pools')
    (agree : Agree denom hub pairs pairs' pools pools') :
    book'.price denom = book.price denom := by
  obtain ⟨sameUsdt, sameHub, hubPriced, priced⟩ := resolve_cases resolved
  obtain ⟨sameUsdt', sameHub', hubPriced', priced'⟩ := resolve_cases resolved'
  have hubSame : book'.hubPrice = book.hubPrice := by
    rw [hubPriceOf_congr apart hubAgree, hubPriced] at hubPriced'
    exact (Except.ok.inj hubPriced').symm
  by_cases isUsdt : denom = usdt
  · rw [price, price, sameUsdt, sameUsdt', if_pos isUsdt, if_pos isUsdt]
  · by_cases isHub : denom = hub
    · rw [price, price, sameUsdt, sameUsdt', sameHub, sameHub', if_neg isUsdt, if_neg isUsdt,
        if_pos isHub, if_pos isHub, hubSame]
    · have here := priced' denom isUsdt isHub
      rw [priceViaHub_congr apart agree, hubSame, priced denom isUsdt isHub] at here
      exact (Except.ok.inj here).symm

theorem agree_of_perm (perm : pairs'.Perm pairs) (a b : String) :
    Agree a b pairs pairs' pools pools :=
  ⟨fun _ _ => perm.mem_iff, fun _ _ _ => rfl⟩

/-- The order of the pairs matters neither for whether prices can be told nor for what they are. -/
theorem resolve_perm (apart : Apart pairs) (perm : pairs'.Perm pairs)
    (resolved : resolve hub usdt pairs pools = .ok book) :
    ∃ book', resolve hub usdt pairs' pools = .ok book' ∧
      ∀ denom, book'.price denom = book.price denom := by
  have same (a b : String) : findByDenoms pairs' a b = findByDenoms pairs a b :=
    findByDenoms_congr apart fun _ _ => perm.mem_iff
  have regular := resolve_ok.mp ⟨book, resolved⟩
  have regular' : ∀ pair, Defines hub usdt pairs' pair → ¬ Blocked pools pair := by
    simpa only [Defines, same] using regular
  obtain ⟨book', resolved'⟩ := resolve_ok.mpr regular'
  exact ⟨book', resolved', fun denom => price_congr apart resolved resolved'
    (agree_of_perm perm hub usdt) (agree_of_perm perm denom hub)⟩

variable (hub usdt pools) in
/-- Prices can be told unless one of the pairs that they are read off is blocked. A price depends
on the pair of its asset and the hub and on that of the hub and USDT, and on nothing else. -/
theorem resolve_prices (apart : Apart pairs) :
    ((∃ book, resolve hub usdt pairs pools = .ok book) ↔
      ∀ pair ∈ pairs, ReadOff hub usdt pair → ¬ Blocked pools pair) ∧
    ∀ book, resolve hub usdt pairs pools = .ok book →
      Prices hub usdt pairs pools book.hubPrice book ∧
      (∀ pairs', pairs'.Perm pairs → ∃ book', resolve hub usdt pairs' pools = .ok book' ∧
        ∀ denom, book'.price denom = book.price denom) ∧
      ∀ pairs' pools' book' denom, resolve hub usdt pairs' pools' = .ok book' →
        Agree hub usdt pairs pairs' pools pools' → Agree denom hub pairs pairs' pools pools' →
        book'.price denom = book.price denom := by
  refine ⟨?_, fun book resolved => ⟨resolve_reads apart resolved, fun pairs' perm =>
    resolve_perm apart perm resolved, fun pairs' pools' book' denom resolved' =>
    price_congr apart resolved resolved'⟩⟩
  rw [resolve_ok]
  simp only [defines_iff apart, and_imp]

/-- A market of the hub with USDT and two other assets, and of a third asset with USDT alone. -/
def hubMarket : List Pair :=
  [⟨.native "orai", .token "usdt", "orai_usdt", "lp1", "", "0.003"⟩,
   ⟨.token "airi", .native "orai", "airi_orai", "lp2", "", "0.003"⟩,
   ⟨.native "orai", .native "atom", "orai_atom", "lp3", "", "0.003"⟩,
   ⟨.token "milky", .token "usdt", "milky_usdt", "lp4", "", "0.003"⟩]

def hubReserves : Snapshot where
  height := 1
  pools := [("airi_orai", ⟨[⟨.token "airi", 4000000000000⟩, ⟨.native "orai", 1000000000000⟩], 1⟩),
    ("orai_usdt", ⟨[⟨.native "orai", 1000000000000⟩, ⟨.token "usdt", 2000000000000⟩], 1⟩)]

theorem hubReserves_regular : ∀ pair ∈ hubMarket, ¬ Blocked hubReserves pair := by
  rintro pair member ⟨pool, held, singular⟩
  simp only [hubMarket, List.mem_cons, List.not_mem_nil, or_false] at member
  rcases member with rfl | rfl | rfl | rfl
  · cases held
    exact absurd singular (by decide)
  · cases held
    exact absurd singular (by decide)
  · cases held
  · cases held

/-- Every pair is read in its own direction, the asset that trades with USDT alone has no price,
and the pairs may come the other way round or without that asset. -/
theorem resolve_prices_market : Apart hubMarket ∧
    ∃ book, resolve "orai" "usdt" hubMarket hubReserves = .ok book ∧ book.price "usdt" = .one ∧
      book.price "milky" = .zero ∧
      (∃ ratio, ratioOf hubReserves ⟨.token "airi", .native "orai", "airi_orai", "lp2", "", "0.003"⟩
        "airi" = .ok ratio ∧ book.price "airi" = ratio.mul book.hubPrice) ∧
      (∃ book', resolve "orai" "usdt" hubMarket.reverse hubReserves = .ok book' ∧
        book'.price "atom" = book.price "atom") ∧
      ∀ book', resolve "orai" "usdt" (hubMarket.take 3) hubReserves = .ok book' →
        book'.price "airi" = book.price "airi" := by
  have apart : Apart hubMarket := by decide
  obtain ⟨resolves, each⟩ := resolve_prices "orai" "usdt" hubReserves apart
  obtain ⟨book, resolved⟩ := resolves.mpr fun pair member _ => hubReserves_regular pair member
  obtain ⟨prices, order, others⟩ := each book resolved
  obtain ⟨book', reversed, same⟩ := order _ hubMarket.reverse_perm
  refine ⟨apart, book, resolved, prices.unit, prices.unpriced "milky" (by decide) (by decide)
    (by decide), prices.viaHub "airi" (by decide) (by decide) _ (by decide) (by decide),
    ⟨book', reversed, same "atom"⟩, fun book' resolved' => ?_⟩
  have listed (a b : String) (others : ¬ hubMarket[3].trades a b) (pair : Pair)
      (trades : pair.trades a b) : pair ∈ hubMarket.take 3 ↔ pair ∈ hubMarket := by
    have other : pair ≠ hubMarket[3] := fun same => others (same ▸ trades)
    have both : pair ∈ hubMarket.take 3 ++ [hubMarket[3]] ↔ pair ∈ hubMarket.take 3 := by
      rw [List.mem_append, List.mem_singleton, or_iff_left other]
    exact both.symm
  exact others (hubMarket.take 3) hubReserves book' "airi" resolved'
    ⟨listed _ _ (by decide), fun _ _ _ => rfl⟩ ⟨listed _ _ (by decide), fun _ _ _ => rfl⟩

end PriceBook
end PoolIndexer
