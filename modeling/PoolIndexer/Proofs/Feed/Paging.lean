import PoolIndexer.Proofs.Feed.Fetching

/-! Which pages the feed asks for. It stops at the last page there is, unless all pages are full
and an entry cannot be read: what is read then falls short of the total, and the feed asks for one
page more. A node that refuses such a page refuses the range, however often it is asked for. -/
namespace PoolIndexer.Feed

variable {σ τ : Type} {config : FeedConfig} {base : Url} {http : Http σ} {processor : Processor τ}
  {first last : Nat} {entries : List Entry}

/-! ## Pages -/

/-- The pages that a listing fills, the last one maybe in part. Without entries there is one. -/
def pageCount (entries : List Entry) : Nat :=
  max 1 ((entries.length + (pageSize - 1)) / pageSize)

/-- A node answers with the pages that there are and tells the number of all entries on each. What
it answers beyond them is its own affair. -/
def Serves (http : Http σ) (base : Url) (first last : Nat) (entries : List Entry) : Prop :=
  ∀ s number, 1 ≤ number → number ≤ pageCount entries →
    pageOf http base first last number s = some (listed entries true number)

/-- All pages are full, and what can be read is less than the total. -/
def Overruns (entries : List Entry) : Prop :=
  pageSize ∣ entries.length ∧ ∃ e ∈ entries, e.tx? = none

theorem pageCount_pos (entries : List Entry) : 0 < pageCount entries := Nat.le_max_left 1 _

theorem length_le_pages (entries : List Entry) :
    entries.length ≤ pageSize * pageCount entries := by
  simp only [pageCount, pageSize]
  omega

theorem pages_lt_length {pages : Nat} (positive : 0 < pages) (fewer : pages < pageCount entries) :
    pageSize * pages < entries.length := by
  simp only [pageCount, pageSize] at fewer ⊢
  omega

theorem readable_all (entries : List Entry) :
    readable entries (pageCount entries) = entries.filterMap Entry.tx? := by
  rw [readable, List.take_of_length_le (length_le_pages entries)]

/-- Before the last page the total is not reached, whatever could be read. -/
theorem not_last_of_lt {pages : Nat} (fewer : pages + 1 < pageCount entries) :
    ¬ isLastPage (listed entries true (pages + 1)) (readable entries (pages + 1)).length = true := by
  have more : pageSize * (pages + 1) < entries.length := pages_lt_length pages.succ_pos fewer
  have within : (readable entries (pages + 1)).length ≤ pageSize * (pages + 1) :=
    readable_le entries (pages + 1)
  rw [isLastPage_listed]
  omega

theorem all_read_iff :
    entries.length ≤ (entries.filterMap Entry.tx?).length ↔ ∀ e ∈ entries, e.tx? ≠ none := by
  have most : (entries.filterMap Entry.tx?).length ≤ entries.length :=
    List.length_filterMap_le _ _
  have each : (entries.filterMap Entry.tx?).length = entries.length ↔ ∀ e ∈ entries, e.tx?.isSome :=
    List.filterMap_length_eq_length
  simp only [← Option.isSome_iff_ne_none, ← each]
  omega

/-- The last page is taken for the last one if it is not full, or else if everything could be
read. -/
theorem last_iff {pages : Nat} (final : pages + 1 = pageCount entries) :
    isLastPage (listed entries true (pages + 1)) (readable entries (pages + 1)).length = true ↔
      ¬ Overruns entries := by
  have bound := length_le_pages entries
  have all := readable_all entries
  rw [← final] at bound all
  rw [isLastPage_listed, all, all_read_iff, and_iff_right rfl, Overruns]
  cases entries with
  | nil => simp [pageSize]
  | cons e rest =>
    have beyond : pageSize * pages < (e :: rest).length := by
      simp only [pageCount, pageSize, List.length_cons] at final ⊢
      omega
    have full : (e :: rest).length < pageSize * (pages + 1) ↔ ¬ pageSize ∣ (e :: rest).length := by
      simp only [pageSize] at bound beyond ⊢
      omega
    rw [full, Classical.not_and_iff_not_or_not]
    simp

/-! ## Asking for them -/

/-- A page that there is: the feed has the chunk, or it goes on to the next page. -/
theorem run_served_page (config : FeedConfig) (processor : Processor τ)
    (serves : Serves http base first last entries) {pages : Nat}
    (within : pages < pageCount entries) (s : σ) (p : τ) :
    ∃ s', run config base http processor 1 (atPage first last (pages + 1) (readable entries pages))
        s p =
      (if isLastPage (listed entries true (pages + 1)) (readable entries (pages + 1)).length then
        withChunk first last (readable entries (pages + 1))
      else atPage first last (pages + 2) (readable entries (pages + 1)), s', p) := by
  obtain ⟨s', one⟩ := run_page config base http processor first last (pages + 1)
    (readable entries pages) s p
  refine ⟨s', ?_⟩
  rw [one 0, serves s (pages + 1) (by omega) within, afterPage_listed]
  split
  · rfl
  · rfl

/-- The feed comes to every page, one after the other, with what those before it could give. -/
theorem run_pages (config : FeedConfig) (processor : Processor τ)
    (serves : Serves http base first last entries) {pages : Nat}
    (within : pages < pageCount entries) (s : σ) (p : τ) :
    ∃ s', run config base http processor pages (atPage first last 1 []) s p =
      (atPage first last (pages + 1) (readable entries pages), s', p) := by
  induction pages with
  | zero =>
    rw [readable_zero]
    exact ⟨s, rfl⟩
  | succ pages ih =>
    have before : pages < pageCount entries := by omega
    obtain ⟨s₁, reached⟩ := ih before
    obtain ⟨s₂, one⟩ := run_served_page config processor serves before s₁ p
    rw [if_neg (not_last_of_lt within)] at one
    refine ⟨s₂, ?_⟩
    rw [run_add, reached]
    exact one

/-- Behind the last page the feed has the chunk, or it asks for a page that is not there. -/
theorem run_all_pages (config : FeedConfig) (processor : Processor τ)
    (serves : Serves http base first last entries) (s : σ) (p : τ) :
    (¬ Overruns entries →
      ∃ s', run config base http processor (pageCount entries) (atPage first last 1 []) s p =
        (withChunk first last (entries.filterMap Entry.tx?), s', p)) ∧
    (Overruns entries →
      ∃ s', run config base http processor (pageCount entries) (atPage first last 1 []) s p =
        (atPage first last (pageCount entries + 1) (entries.filterMap Entry.tx?), s', p)) := by
  obtain ⟨pages, final⟩ : ∃ pages, pages + 1 = pageCount entries :=
    ⟨pageCount entries - 1, Nat.sub_add_cancel (pageCount_pos entries)⟩
  have before : pages < pageCount entries := by omega
  obtain ⟨s₁, reached⟩ := run_pages config processor serves before s p
  obtain ⟨s₂, one⟩ := run_served_page config processor serves before s₁ p
  rw [← readable_all, ← final, run_add, reached]
  constructor
  · intro stops
    rw [if_pos ((last_iff final).mpr stops)] at one
    exact ⟨s₂, one⟩
  · intro overruns
    rw [if_neg fun stops => (last_iff final).mp stops overruns] at one
    exact ⟨s₂, one⟩

/-- From a node that serves the pages of a range and tells the total on each, the feed asks for
page after page up to the last one. Then it delivers, unless the entries overrun: it asks for one
page more, and if the node has none to give it comes away with nothing. -/
theorem pages_asked (config : FeedConfig) (processor : Processor τ)
    (serves : Serves http base first last entries) (s : σ) (p : τ) :
    (∀ k < pageCount entries,
      (run config base http processor k (atPage first last 1 []) s p).1.demand =
        .page first last (k + 1)) ∧
    (¬ Overruns entries →
      (run config base http processor (pageCount entries) (atPage first last 1 []) s p).1.demand =
        .deliver ⟨entries.filterMap Entry.tx?, last⟩) ∧
    (Overruns entries →
      (run config base http processor (pageCount entries) (atPage first last 1 []) s p).1.demand =
        .page first last (pageCount entries + 1) ∧
      ((∀ s, Unusable (pageOf http base first last (pageCount entries + 1) s)) →
        (run config base http processor (pageCount entries + 1) (atPage first last 1 []) s p).1 =
          ⟨first, waiting config⟩)) := by
  obtain ⟨delivers, goes_on⟩ := run_all_pages config processor serves s p
  refine ⟨?_, ?_, ?_⟩
  · intro k fewer
    obtain ⟨s', there⟩ := run_pages config processor serves fewer s p
    rw [there]
    rfl
  · intro stops
    obtain ⟨s', there⟩ := delivers stops
    rw [there]
    rfl
  · intro overruns
    obtain ⟨s', there⟩ := goes_on overruns
    constructor
    · rw [there]
      rfl
    · intro refuses
      obtain ⟨s₁, ended⟩ := run_unusable there (refuses s')
      rw [ended]

/-! A full page, and a node that has only this page. -/

def fullEntries (height : String) : List Entry :=
  (⟨height, "A", 0, "", [], []⟩, []) ::
    List.replicate 99 (⟨"150", "A", 0, "", [], []⟩, [])

def fullPage (height : String) : Json :=
  .obj [("txs", .arr (List.replicate 100 (.obj []))),
    ("tx_responses", .arr (.obj [("height", .str height), ("txhash", .str "A")] ::
      List.replicate 99 (.obj [("height", .str "150"), ("txhash", .str "A")]))),
    ("total", .str "100")]

/-- A node that answers a request for the first page of a range, and no other request. -/
def firstPageNode (base : Url) (first last : Nat) (page : Json) : Http Unit where
  get r s :=
    (if some r = pageRequest? base first last 1 then some { body := page.compact } else none, s)
  sleep _ s := s
  cancelled _ := false

theorem firstPageNode_one (page : Json) (s : Unit) :
    pageOf (firstPageNode someNode 101 200 page) someNode 101 200 1 s =
      (Json.read? (page.render.map some)).bind TxPage.ofDocument? := by
  simp [pageOf, fetch, pageRequest?, Url.extend?, someNode, firstPageNode, Http.content?,
    HttpResponse.content?, Json.document?, Json.compact, Utf8.ofText]

theorem firstPageNode_two (page : Json) (s : Unit) :
    Unusable (pageOf (firstPageNode someNode 101 200 page) someNode 101 200 2 s) := by
  have other : pageRequest? someNode 101 200 2 ≠ pageRequest? someNode 101 200 1 := by
    simp only [pageRequest?, Url.extend?, someNode, Option.map_some, Url.addQuery, Url.target,
      List.map, ne_eq, Option.some.injEq, HttpRequest.mk.injEq, Option.getD_some, and_true,
      List.nil_append, ← String.toList_inj, String.toList_append, List.append_cancel_left_eq,
      String.toList_intercalate, List.append_assoc, List.intercalate, List.intersperse,
      List.flatten_cons, List.flatten_nil]
    decide
  obtain ⟨request, asked⟩ : ∃ request, pageRequest? someNode 101 200 2 = some request := ⟨_, rfl⟩
  rw [asked] at other
  simp [pageOf, fetch, asked, firstPageNode, Http.content?, other, Unusable]

set_option maxRecDepth 100000 in
theorem fullPage_parts :
    ((Json.read? ((fullPage "x").render.map some)).bind TxPage.ofDocument?).map
        (fun page => (page.bodies.map List.isEmpty, page.results, page.total)) =
      some (List.replicate 100 true, (fullEntries "x").map (·.1), some 100) := by
  decide +kernel

theorem fullPage_serves :
    Serves (firstPageNode someNode 101 200 (fullPage "x")) someNode 101 200 (fullEntries "x") := by
  intro s number positive within
  obtain rfl : number = 1 := Nat.le_antisymm within positive
  obtain ⟨⟨bodies, results, total⟩, came, parts⟩ := Option.map_eq_some_iff.mp fullPage_parts
  simp only [Prod.mk.injEq] at parts
  obtain ⟨flags, rfl, rfl⟩ := parts
  obtain ⟨all, each⟩ := List.eq_replicate_iff.mp flags
  obtain rfl : bodies = List.replicate 100 [] := by
    rw [List.length_map] at all
    refine List.eq_replicate_iff.mpr ⟨all, fun body among => ?_⟩
    exact List.isEmpty_iff.mp (each _ (List.mem_map_of_mem among))
  rw [firstPageNode_one, came]
  rfl

theorem fullEntries_overruns : Overruns (fullEntries "x") :=
  ⟨by decide, (⟨"x", "A", 0, "", [], []⟩, []), List.mem_cons_self, by decide⟩

theorem pages_asked_malformed :
    Serves (firstPageNode someNode 101 200 (fullPage "x")) someNode 101 200 (fullEntries "x") ∧
    (run ⟨100, 5000, 100, 3000⟩ someNode (firstPageNode someNode 101 200 (fullPage "x"))
        ScriptedProcessor.processor 2 (atPage 101 200 1 []) () {}).1 =
      ⟨101, .pausing 5000 none⟩ := by
  have asked := pages_asked ⟨100, 5000, 100, 3000⟩ ScriptedProcessor.processor fullPage_serves () {}
  have refused := (asked.2.2 fullEntries_overruns).2
  exact ⟨fullPage_serves, refused (firstPageNode_two (fullPage "x"))⟩

/-- There is one page, and the feed asks for another. -/
theorem second_page_asked :
    Serves (firstPageNode someNode 101 200 (fullPage "x")) someNode 101 200 (fullEntries "x") ∧
    pageCount (fullEntries "x") = 1 ∧
    (run ⟨100, 5000, 100, 3000⟩ someNode (firstPageNode someNode 101 200 (fullPage "x"))
        ScriptedProcessor.processor 1 (atPage 101 200 1 []) () {}).1.demand = .page 101 200 2 := by
  obtain ⟨s', there⟩ := (run_all_pages ⟨100, 5000, 100, 3000⟩ ScriptedProcessor.processor
    fullPage_serves () {}).2 fullEntries_overruns
  have one : pageCount (fullEntries "x") = 1 := by decide
  rw [one] at there
  refine ⟨fullPage_serves, one, ?_⟩
  rw [there]
  rfl

end PoolIndexer.Feed
