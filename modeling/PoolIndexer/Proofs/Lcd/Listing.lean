import Mathlib.Data.List.Forall2
import PoolIndexer.Proofs.Json
import PoolIndexer.Proofs.Lcd.Asking

/-! Listing the pairs of a factory. Every page is asked for by the last pair of the page before, so
a factory whose pairs differ in their assets is listed in full, with one query for each full page
and one more. A query that is given up is the end of the listing, and nothing is listed then. -/
namespace PoolIndexer

/-- What a factory knows a pair by. -/
def Pair.assets (p : Pair) : AssetInfo × AssetInfo := (p.base, p.quote)

theorem Pair.numberless_toJson (p : Pair) : p.toJson.numberless = true := by
  obtain ⟨base, quote, _, _, _, _⟩ := p
  cases base <;> cases quote <;> rfl

theorem Pair.ofDocument?_toDocument (p : Pair) (origin : Document.Origin) :
    Pair.ofDocument? origin p.toJson.toDocument = some p := by
  obtain ⟨base, quote, _, _, _, _⟩ := p
  cases base <;> cases quote <;> cases origin <;> rfl

namespace Lcd

variable {σ : Type} {lcd : Lcd} {http : Http σ} {factory : String} {pairs : List Pair}

/-! ## Pages -/

/-- The pairs after the one of given assets, all of them if none are given. -/
def pairsAfter (pairs : List Pair) : Option (AssetInfo × AssetInfo) → List Pair
  | none => pairs
  | some assets => (pairs.dropWhile (·.assets != assets)).tail

/-- What a page starts after, the last pair of the pages before it. -/
def pageStart (pairs : List Pair) (page : Nat) : Option (AssetInfo × AssetInfo) :=
  ((pairs.take (pageSize * page)).getLast?).map Pair.assets

/-- The query for a page. -/
def pageQuery (pairs : List Pair) (page : Nat) : ContractQuery :=
  .pairs (pageStart pairs page) (some pageSize)

/-- The last page, which is not full and may be empty. -/
def lastPage (pairs : List Pair) : Nat := pairs.length / pageSize

/-- A factory that holds pairs answers the query for each of their pages with the first of the
pairs after its start, as many as are asked for. It may take several attempts. -/
def Holds (lcd : Lcd) (http : Http σ) (factory : String) (pairs : List Pair) : Prop :=
  ∀ page ≤ lastPage pairs, ∀ s, ∃ s',
    lcd.ask http factory (pageQuery pairs page) none pairs? s =
      (.ok ((pairsAfter pairs (pageStart pairs page)).take pageSize), s')

theorem pairsAfter_append {before after : List Pair}
    (distinct : ((before ++ after).map Pair.assets).Nodup) :
    pairsAfter (before ++ after) (before.getLast?.map Pair.assets) = after := by
  rcases List.eq_nil_or_concat before with rfl | ⟨others, p, rfl⟩
  · rfl
  · rw [List.concat_eq_append] at distinct ⊢
    have apart : ∀ q ∈ others, (q.assets != p.assets) = true := by
      intro q member
      rw [List.map_append, List.map_append] at distinct
      have different := (List.nodup_append.mp (List.nodup_append.mp distinct).1).2.2
        q.assets (List.mem_map_of_mem member) p.assets (by simp)
      simpa using different
    rw [List.getLast?_concat, Option.map_some, pairsAfter, List.append_assoc,
      List.dropWhile_append_of_pos apart]
    simp

theorem pairsAfter_pageStart (distinct : (pairs.map Pair.assets).Nodup) (page : Nat) :
    pairsAfter pairs (pageStart pairs page) = pairs.drop (pageSize * page) := by
  have split := List.take_append_drop (pageSize * page) pairs
  rw [← split] at distinct
  have rest := pairsAfter_append distinct
  rwa [split] at rest

theorem take_page (pairs : List Pair) (page : Nat) :
    pairs.take (pageSize * page) ++ (pairs.drop (pageSize * page)).take pageSize =
      pairs.take (pageSize * (page + 1)) := by
  rw [Nat.mul_succ, List.take_add]

/-- The last page is the first that is not full. -/
theorem page_short_iff (pairs : List Pair) (page : Nat) :
    ((pairs.drop (pageSize * page)).take pageSize).length < pageSize ↔ lastPage pairs ≤ page := by
  rw [List.length_take, List.length_drop, lastPage]
  simp only [pageSize]
  omega

theorem take_of_lastPage_le {page : Nat} (last : lastPage pairs ≤ page) :
    pairs.take (pageSize * (page + 1)) = pairs := by
  refine List.take_of_length_le ?_
  simp only [lastPage, pageSize] at last ⊢
  omega

/-! ## Answers -/

/-- The text of a page as a factory answers it. -/
def pageText (page : List Pair) : String := listText "pairs" (page.map Pair.toJson)

theorem answer?_pageText (page : List Pair) : answer? pairs? (pageText page) = some page :=
  answer?_listText Pair.numberless_toJson (Pair.ofDocument?_toDocument · .text) "pairs" page

/-! ## Listings -/

theorem listing_answered {listed page : List Pair} {s s' : σ}
    (answered : lcd.ask http factory (nextPage listed) none pairs? s = (.ok page, s'))
    (allowed : Nat) :
    lcd.listing http factory (allowed + 1) listed s =
      if page.length < pageSize then (.ok (listed ++ page), s')
      else lcd.listing http factory allowed (listed ++ page) s' := by
  rw [listing, answered]

/-- A page that there is: the pairs are listed, or the listing goes on to the next page. -/
theorem listing_page (http : Http σ) (distinct : (pairs.map Pair.assets).Nodup) {page : Nat}
    {s s' : σ}
    (answered : lcd.ask http factory (pageQuery pairs page) none pairs? s =
      (.ok ((pairsAfter pairs (pageStart pairs page)).take pageSize), s')) (allowed : Nat) :
    lcd.listing http factory (allowed + 1) (pairs.take (pageSize * page)) s =
      if lastPage pairs ≤ page then (.ok pairs, s')
      else lcd.listing http factory allowed (pairs.take (pageSize * (page + 1))) s' := by
  rw [listing_answered answered, pairsAfter_pageStart distinct, take_page]
  simp only [page_short_iff]
  refine ite_congr rfl (fun last => ?_) fun _ => rfl
  rw [take_of_lastPage_le last]

/-- The listing goes on from page to page up to the last one. -/
theorem listing_pages (distinct : (pairs.map Pair.assets).Nodup)
    (holds : lcd.Holds http factory pairs) {page left allowed : Nat}
    (position : page + left = lastPage pairs) (enough : left < allowed) (s : σ)
    (record : List Attempt) :
    ∃ (queries : List (List Attempt)) (s' : σ),
      lcd.listing http factory allowed (pairs.take (pageSize * page)) s = (.ok pairs, s') ∧
      lcd.listing http.recorded factory allowed (pairs.take (pageSize * page)) (s, record) =
        (.ok pairs, s', record ++ queries.flatten) ∧
      List.Forall₂ (fun page attempts => ∃ listed,
        lcd.Asked factory (pageQuery pairs page) none pairs? attempts (.ok listed))
        (List.range' page (left + 1)) queries := by
  -- The induction is on the pages that are left; what is listed are the pages before.
  induction left generalizing page allowed s record with
  | zero =>
    obtain ⟨allowed, rfl⟩ := Nat.exists_eq_succ_of_ne_zero (Nat.ne_of_gt enough)
    obtain ⟨u, answered⟩ := holds page (by omega) s
    obtain ⟨attempts, asked, recorded⟩ := recorded_ask answered record
    have last : lastPage pairs ≤ page := by omega
    refine ⟨[attempts], u, ?_, ?_, .cons ⟨_, asked⟩ .nil⟩
    · rw [listing_page http distinct answered, if_pos last]
    · rw [listing_page http.recorded distinct recorded, if_pos last]
      simp
  | succ left ih =>
    obtain ⟨allowed, rfl⟩ := Nat.exists_eq_succ_of_ne_zero (Nat.ne_of_gt (Nat.zero_lt_of_lt enough))
    obtain ⟨u, answered⟩ := holds page (by omega) s
    obtain ⟨attempts, asked, recorded⟩ := recorded_ask answered record
    have more : ¬ lastPage pairs ≤ page := by omega
    have next : page + 1 + left = lastPage pairs := by omega
    have fewer : left < allowed := Nat.lt_of_succ_lt_succ enough
    obtain ⟨queries, s', plain, shown, all⟩ := ih next fewer u (record ++ attempts)
    refine ⟨attempts :: queries, s', ?_, ?_, .cons ⟨_, asked⟩ all⟩
    · rw [listing_page http distinct answered, if_neg more, plain]
    · rw [listing_page http.recorded distinct recorded, if_neg more, shown]
      simp

/-- The record shows whether a query was given up, and then alone the listing has failed. -/
theorem recorded_listing {allowed : Nat} {listed : List Pair} {s s' : σ}
    {result : Except LcdError (List Pair)}
    (done : lcd.listing http factory allowed listed s = (result, s')) (record : List Attempt) :
    ∃ attempts,
      lcd.listing http.recorded factory allowed listed (s, record) =
        (result, s', record ++ attempts) ∧
      (result = .error (.failed factory) ↔ GaveUp pairs? attempts) := by
  induction allowed generalizing listed s record with
  | zero =>
    cases done
    refine ⟨[], by rw [listing, List.append_nil], ?_⟩
    simp [not_gaveUp_nil]
  | succ allowed ih =>
    rcases answered : lcd.ask http factory (nextPage listed) none pairs? s with ⟨answer, u⟩
    obtain ⟨attempts, asked, recorded⟩ := recorded_ask answered record
    cases asked with
    | notABase none =>
      rw [listing, answered] at done
      cases done
      refine ⟨[], by rw [listing, recorded], ?_⟩
      simp [not_gaveUp_nil]
    | givenUp made givenUp =>
      rw [listing, answered] at done
      cases done
      exact ⟨attempts, by rw [listing, recorded], by simp [givenUp.gaveUp]⟩
    | @answered request _ page made brought =>
      rw [listing_answered answered] at done
      rw [listing_answered recorded]
      by_cases short : page.length < pageSize
      · rw [if_pos short] at done ⊢
        cases done
        refine ⟨attempts, rfl, ?_⟩
        have whole := brought.gaveUp_append []
        rw [List.append_nil] at whole
        simp [whole, not_gaveUp_nil]
      · rw [if_neg short] at done ⊢
        obtain ⟨others, continued, failed⟩ := ih done (record ++ attempts)
        refine ⟨attempts ++ others, by rw [continued, List.append_assoc], ?_⟩
        rw [failed, brought.gaveUp_append]

/-- A factory's pairs are listed in full and in order, by one query for each full page and one more.
Whatever the node answers, the listing fails if a query was given up. -/
theorem factoryPairs_complete (lcd : Lcd) (http : Http σ) (factory : String) :
    (∀ pairs, (pairs.map Pair.assets).Nodup → lcd.Holds http factory pairs →
      ∀ allowed s, pairs.length / pageSize < allowed →
        ∃ (queries : List (List Attempt)) (s' : σ),
          lcd.factoryPairs http allowed factory s = (.ok pairs, s') ∧
          lcd.factoryPairs http.recorded allowed factory (s, []) =
            (.ok pairs, s', queries.flatten) ∧
          List.Forall₂ (fun page attempts => ∃ listed,
            lcd.Asked factory (pageQuery pairs page) none pairs? attempts (.ok listed))
            (List.range (pairs.length / pageSize + 1)) queries) ∧
    ∀ allowed s result s', lcd.factoryPairs http allowed factory s = (result, s') →
      ∃ record,
        lcd.factoryPairs http.recorded allowed factory (s, []) = (result, s', record) ∧
        (GaveUp pairs? record ↔ result = .error (.failed factory)) := by
  constructor
  · intro pairs distinct holds allowed s enough
    have start : 0 + lastPage pairs = lastPage pairs := Nat.zero_add _
    obtain ⟨queries, s', plain, recorded, all⟩ := listing_pages distinct holds start enough s []
    refine ⟨queries, s', plain, recorded, ?_⟩
    rwa [List.range_eq_range']
  · intro allowed s result s' done
    obtain ⟨record, recorded, failed⟩ := recorded_listing done []
    exact ⟨record, recorded, failed.symm⟩

/-! A factory that has one full page of pairs, at a node that serves every other request only. -/

def hubPair (i : Nat) : Pair where
  base := .native "uusd"
  quote := .token ("token" ++ Nat.repr i)
  address := "pair" ++ Nat.repr i
  liquidityToken := "share" ++ Nat.repr i

def hubPairs : List Pair := (List.range pageSize).map hubPair

def hubLcd : Lcd where
  base := { scheme := "https", authority := some "lcd.hub", path := .segments [] }
  multicall := "multicall"
  staking := "staking"

/-- The first page has all pairs, and any other one none. -/
def hubPage (request : HttpRequest) : List Pair :=
  if hubLcd.request? "factory" (pageQuery hubPairs 0) none = some request then hubPairs else []

def hubNode : Http Bool where
  get request busy :=
    if busy then (some { status := 503 }, false)
    else (some { body := pageText (hubPage request) }, true)
  sleep _ busy := busy
  cancelled _ := false

theorem hub_requests : ∃ first second,
    hubLcd.request? "factory" (pageQuery hubPairs 0) none = some first ∧
    hubLcd.request? "factory" (pageQuery hubPairs 1) none = some second ∧ first ≠ second := by
  have made : ∀ query, ∃ request, hubLcd.request? "factory" query none = some request :=
    fun _ => ⟨_, rfl⟩
  have different : hubLcd.request? "factory" (pageQuery hubPairs 0) none ≠
      hubLcd.request? "factory" (pageQuery hubPairs 1) none := by
    decide +kernel
  obtain ⟨first, atFirst⟩ := made (pageQuery hubPairs 0)
  obtain ⟨second, atSecond⟩ := made (pageQuery hubPairs 1)
  rw [atFirst, atSecond] at different
  exact ⟨first, second, atFirst, atSecond, fun same => different (congrArg some same)⟩

theorem hub_answers {query : ContractQuery} {request : HttpRequest}
    (made : hubLcd.request? "factory" query none = some request) (busy : Bool) :
    hubLcd.ask hubNode "factory" query none pairs? busy = (.ok (hubPage request), true) := by
  rw [ask, made]
  cases busy <;>
    simp [retry, pauses, attempt, Http.content?, hubNode, HttpResponse.content?, answer?_pageText]

theorem hubPairs_distinct : (hubPairs.map Pair.assets).Nodup := by decide +kernel

theorem hub_holds : Holds hubLcd hubNode "factory" hubPairs := by
  obtain ⟨first, second, atFirst, atSecond, different⟩ := hub_requests
  have last : lastPage hubPairs = 1 := rfl
  intro page within busy
  refine ⟨true, ?_⟩
  rw [pairsAfter_pageStart hubPairs_distinct]
  rw [last] at within
  obtain rfl | rfl : page = 0 ∨ page = 1 := by omega
  · rw [hub_answers atFirst, hubPage, if_pos atFirst]
    rfl
  · have other : ¬ hubLcd.request? "factory" (pageQuery hubPairs 0) none = some second := by
      rw [atFirst, Option.some.injEq]
      exact different
    rw [hub_answers atSecond, hubPage, if_neg other]
    rfl

/-- Two queries list the full page and find nothing more; a node that is down lists nothing. -/
theorem hub_listed :
    (∃ queries s', hubLcd.factoryPairs hubNode.recorded 2 "factory" (true, []) =
      (.ok hubPairs, s', List.flatten queries) ∧ queries.length = 2) ∧
    ∃ record s', hubLcd.factoryPairs ScriptedHttp.http.recorded 2 "factory" ({}, []) =
      (.error (.failed "factory"), s', record) ∧ GaveUp pairs? record := by
  constructor
  · obtain ⟨queries, s', -, recorded, all⟩ := (factoryPairs_complete hubLcd hubNode "factory").1
      hubPairs hubPairs_distinct hub_holds 2 true (by decide)
    exact ⟨queries, s', recorded, all.length_eq.symm⟩
  · obtain ⟨record, recorded, failed⟩ :=
      (factoryPairs_complete hubLcd ScriptedHttp.http "factory").2 2 {} _ _ rfl
    exact ⟨record, _, recorded, failed.mpr rfl⟩

end Lcd
end PoolIndexer
