import PoolIndexer.Feed.Source

/-! Fetching a range. From a node that lists its transactions page by page the feed gets every one
that can be read, once and in order, and it asks for no more than one page beyond the full ones. A
page that does not come, or is not sound, leaves it with nothing. -/
namespace PoolIndexer.Feed

variable {σ τ : Type} {config : FeedConfig} {base : Url} {http : Http σ} {processor : Processor τ}

/-- The page that a node answers with. -/
def pageOf (http : Http σ) (base : Url) (first last number : Nat) (s : σ) : Option TxPage :=
  (fetch http (pageRequest? base first last number)
    (fun body => (Json.document? body).bind TxPage.ofDocument?) s).1

/-! ## Listings -/

/-- A transaction as a node lists it: its result and its messages. -/
abbrev Entry := TxResult × List Json

def Entry.tx? (e : Entry) : Option Tx := e.1.tx? e.2

/-- The entries on a page. -/
def entriesOn (entries : List Entry) (number : Nat) : List Entry :=
  (entries.drop (pageSize * (number - 1))).take pageSize

/-- A page of a listing, which tells the number of all entries or does not. -/
def listed (entries : List Entry) (counted : Bool) (number : Nat) : TxPage where
  bodies := (entriesOn entries number).map (·.2)
  results := (entriesOn entries number).map (·.1)
  total := if counted then some entries.length else none

/-- The transactions on a number of pages that can be read. -/
def readable (entries : List Entry) (pages : Nat) : List Tx :=
  (entries.take (pageSize * pages)).filterMap Entry.tx?

/-- A node answers with the pages of a listing, up to the first one that is not full. -/
def Lists (http : Http σ) (base : Url) (first last : Nat) (entries : List Entry)
    (counted : Bool) : Prop :=
  ∀ s number, 1 ≤ number → number ≤ entries.length / pageSize + 1 →
    pageOf http base first last number s = some (listed entries counted number)

theorem readable_zero (entries : List Entry) : readable entries 0 = [] := by
  simp [readable]

theorem readable_succ (entries : List Entry) (pages : Nat) :
    readable entries (pages + 1) =
      readable entries pages ++ (entriesOn entries (pages + 1)).filterMap Entry.tx? := by
  simp only [readable, entriesOn, Nat.add_sub_cancel, Nat.mul_add, Nat.mul_one, List.take_add,
    List.filterMap_append]

theorem listed_txs (entries : List Entry) (counted : Bool) (number : Nat) :
    (listed entries counted number).txs = .ok ((entriesOn entries number).filterMap Entry.tx?) := by
  simp only [TxPage.txs, listed, List.length_map, if_true, List.zip_map', List.map_id']
  rfl

/-- When the feed takes a page of a listing for the last one. -/
theorem isLastPage_listed {entries : List Entry} {counted : Bool} {pages : Nat} {txs : Nat} :
    isLastPage (listed entries counted (pages + 1)) txs = true ↔
      entries.length < pageSize * (pages + 1) ∨ counted = true ∧ entries.length ≤ txs := by
  have length : (listed entries counted (pages + 1)).results.length =
      min pageSize (entries.length - pageSize * pages) := by
    simp [listed, entriesOn]
  simp only [isLastPage, length, pageSize]
  cases counted with
  | true =>
    simp only [listed, if_true, Bool.or_eq_true, decide_eq_true_eq, true_and]
    omega
  | false =>
    simp [listed]
    omega

/-- No more can be read than there are entries on the pages. -/
theorem readable_le (entries : List Entry) (pages : Nat) :
    (readable entries pages).length ≤ pageSize * pages := by
  apply Nat.le_trans (List.length_filterMap_le _ _)
  rw [List.length_take]
  exact Nat.min_le_left _ _

/-- Where the feed stops asking there is no entry that it has not seen: even if it goes by the
number of what it could read, that is no more than the entries it was shown. -/
theorem readable_of_last {entries : List Entry} {counted : Bool} {pages : Nat}
    (stops : isLastPage (listed entries counted (pages + 1)) (readable entries (pages + 1)).length
      = true) : readable entries (pages + 1) = entries.filterMap Entry.tx? := by
  have within : (readable entries (pages + 1)).length ≤ pageSize * (pages + 1) :=
    readable_le entries (pages + 1)
  have seen : entries.length ≤ pageSize * (pages + 1) := by
    rcases isLastPage_listed.mp stops with short | ⟨_, received⟩
    · exact Nat.le_of_lt short
    · exact Nat.le_trans received within
  rw [readable, List.take_of_length_le seen]

/-- Where it goes on, the page was full. -/
theorem full_of_not_last {entries : List Entry} {counted : Bool} {pages txs : Nat}
    (goes_on : ¬ isLastPage (listed entries counted (pages + 1)) txs = true) :
    pages + 1 ≤ entries.length / pageSize := by
  have full : ¬ entries.length < pageSize * (pages + 1) := fun short =>
    goes_on (isLastPage_listed.mpr (.inl short))
  simp only [pageSize] at full ⊢
  omega

/-! ## Asking for pages -/

/-- A feed that has come to a page of a range. -/
def atPage (first last number : Nat) (txs : List Tx) : State := ⟨first, .fetching last number txs⟩

/-- A feed that has a chunk to deliver. -/
def withChunk (first last : Nat) (txs : List Tx) : State := ⟨first, .delivering ⟨txs, last⟩ 0⟩

/-- One page: the feed goes on with what it makes of it. The processor is left alone. -/
theorem run_page (config : FeedConfig) (base : Url) (http : Http σ) (processor : Processor τ)
    (first last number : Nat) (txs : List Tx) (s : σ) (p : τ) :
    ∃ s', ∀ steps, run config base http processor (steps + 1) (atPage first last number txs) s p =
      run config base http processor steps
        ⟨first, afterPage config last number txs (pageOf http base first last number s)⟩ s' p :=
  ⟨_, fun _ => rfl⟩

theorem afterPage_listed (entries : List Entry) (counted : Bool) (last pages : Nat) :
    afterPage config last (pages + 1) (readable entries pages)
        (some (listed entries counted (pages + 1))) =
      if isLastPage (listed entries counted (pages + 1)) (readable entries (pages + 1)).length then
        .delivering ⟨readable entries (pages + 1), last⟩ 0
      else .fetching last (pages + 2) (readable entries (pages + 1)) := by
  simp only [afterPage, listed_txs, ← readable_succ]

/-- A page of a listing is the last one, and the chunk is there, or it was a full one. -/
theorem run_listed_page (config : FeedConfig) (processor : Processor τ) {first last : Nat}
    {entries : List Entry} {counted : Bool} (lists : Lists http base first last entries counted)
    {pages : Nat} (within : pages ≤ entries.length / pageSize) (s : σ) (p : τ) :
    ∃ s', (∀ steps, run config base http processor (steps + 1)
          (atPage first last (pages + 1) (readable entries pages)) s p =
        run config base http processor steps
          (withChunk first last (entries.filterMap Entry.tx?)) s' p) ∨
      pages + 1 ≤ entries.length / pageSize ∧
        ∀ steps, run config base http processor (steps + 1)
          (atPage first last (pages + 1) (readable entries pages)) s p =
        run config base http processor steps
          (atPage first last (pages + 2) (readable entries (pages + 1))) s' p := by
  obtain ⟨s', one⟩ := run_page config base http processor first last (pages + 1)
    (readable entries pages) s p
  rw [lists s (pages + 1) (by omega) (by omega), afterPage_listed] at one
  by_cases stops : isLastPage (listed entries counted (pages + 1))
      (readable entries (pages + 1)).length = true
  · rw [if_pos stops, readable_of_last stops] at one
    exact ⟨s', .inl one⟩
  · rw [if_neg stops] at one
    exact ⟨s', .inr ⟨full_of_not_last stops, one⟩⟩

/-- After a number of pages of a listing the feed has everything, and until then it has what those
before could give. -/
def Gathers (config : FeedConfig) (base : Url) (http : Http σ) (processor : Processor τ)
    (first last : Nat) (entries : List Entry) (s : σ) (p : τ) (before pages : Nat) : Prop :=
  (∃ s', run config base http processor pages
      (atPage first last (before + 1) (readable entries before)) s p =
    (withChunk first last (entries.filterMap Entry.tx?), s', p)) ∧
  ∀ k < pages, ∃ s', run config base http processor k
      (atPage first last (before + 1) (readable entries before)) s p =
    (atPage first last (before + k + 1) (readable entries (before + k)), s', p)

theorem Gathers.one {first last before : Nat} {entries : List Entry} {s s' : σ} {p : τ}
    (all : run config base http processor 1
        (atPage first last (before + 1) (readable entries before)) s p =
      (withChunk first last (entries.filterMap Entry.tx?), s', p)) :
    Gathers config base http processor first last entries s p before 1 := by
  refine ⟨⟨s', all⟩, ?_⟩
  intro k none_yet
  obtain rfl : k = 0 := Nat.lt_one_iff.mp none_yet
  exact ⟨s, rfl⟩

theorem Gathers.step {first last before pages : Nat} {entries : List Entry} {s s' : σ} {p : τ}
    (next : ∀ steps, run config base http processor (steps + 1)
        (atPage first last (before + 1) (readable entries before)) s p =
      run config base http processor steps
        (atPage first last (before + 2) (readable entries (before + 1))) s' p)
    (rest : Gathers config base http processor first last entries s' p (before + 1) pages) :
    Gathers config base http processor first last entries s p before (pages + 1) := by
  obtain ⟨⟨s₁, complete⟩, earlier⟩ := rest
  refine ⟨⟨s₁, by rw [next, complete]⟩, ?_⟩
  intro k at_most
  cases k with
  | zero => exact ⟨s, rfl⟩
  | succ k =>
    obtain ⟨s₂, there⟩ := earlier k (by omega)
    refine ⟨s₂, ?_⟩
    rw [next, there, Nat.add_right_comm before 1 k]
    rfl

/-- From a page that is no further than one behind the full ones the feed asks page by page. -/
theorem run_listed (config : FeedConfig) (processor : Processor τ) {first last : Nat}
    {entries : List Entry} {counted : Bool} (lists : Lists http base first last entries counted)
    {left before : Nat} (range : before + left = entries.length / pageSize) (s : σ) (p : τ) :
    ∃ more ≤ left,
      Gathers config base http processor first last entries s p before (more + 1) := by
  have within : before ≤ entries.length / pageSize := by omega
  -- by induction on the full pages that may still be to come
  induction left generalizing before s with
  | zero =>
    obtain ⟨s', all | ⟨further, -⟩⟩ := run_listed_page config processor lists within s p
    · exact ⟨0, Nat.le_refl 0, .one (all 0)⟩
    · omega
  | succ left ih =>
    obtain ⟨s', all | ⟨further, next⟩⟩ := run_listed_page config processor lists within s p
    · exact ⟨0, Nat.zero_le _, .one (all 0)⟩
    · obtain ⟨more, fewer, rest⟩ := ih (by omega) s' further
      exact ⟨more + 1, by omega, rest.step next⟩

/-! ## A page that is of no use -/

/-- A page that did not come, or whose results and messages do not go together. -/
def Unusable : Option TxPage → Prop
  | none => True
  | some page => page.bodies.length ≠ page.results.length

theorem afterPage_unusable {page : Option TxPage} (unusable : Unusable page)
    (last number : Nat) (txs : List Tx) : afterPage config last number txs page = waiting config := by
  cases page with
  | none => rfl
  | some page =>
    have misaligned : page.bodies.length ≠ page.results.length := unusable
    simp [afterPage, TxPage.txs, misaligned]

theorem meet_none {demand : Demand} {s s' : σ} {p p' : τ}
    (met : meet base http processor demand s p = (none, s', p')) :
    demand = .nothing ∧ s' = s ∧ p' = p := by
  cases demand <;> simp_all [meet]

/-- Steps after steps. -/
theorem run_add (steps more : Nat) (state : State) (s : σ) (p : τ) :
    run config base http processor (steps + more) state s p =
      let reached := run config base http processor steps state s p
      run config base http processor more reached.1 reached.2.1 reached.2.2 := by
  induction steps generalizing state s p with
  | zero => simp [run]
  | succ steps ih =>
    rw [Nat.add_right_comm]
    rcases met : meet base http processor state.demand s p with ⟨event | event, s', p'⟩
    · obtain ⟨silent, rfl, rfl⟩ := meet_none met
      cases more with
      | zero => simp [run, met]
      | succ more => simp [run, met]
    · simp only [run, met, ih]

/-- Whatever has been fetched of a range, a page that is of no use ends it with nothing. -/
theorem run_unusable {state : State} {steps first last number : Nat} {txs : List Tx} {s s₁ : σ}
    {p p₁ : τ}
    (there : run config base http processor steps state s p =
      (atPage first last number txs, s₁, p₁))
    (unusable : Unusable (pageOf http base first last number s₁)) :
    ∃ s', run config base http processor (steps + 1) state s p =
      (⟨first, waiting config⟩, s', p₁) := by
  obtain ⟨s', one⟩ := run_page config base http processor first last number txs s₁ p₁
  rw [afterPage_unusable unusable] at one
  refine ⟨s', ?_⟩
  rw [run_add, there]
  exact one 0

/-- From a node that lists the transactions of a range the feed gets all that can be read, once and
in order, with no more requests than one for each full page and one. It comes away with nothing
from a page that does not come or is misaligned. -/
theorem fetched_complete (config : FeedConfig) (base : Url) (http : Http σ)
    (processor : Processor τ) (first last : Nat) (s : σ) (p : τ) :
    (∀ entries counted, Lists http base first last entries counted →
      ∃ pages ≤ entries.length / pageSize + 1,
        (∃ s', run config base http processor pages (atPage first last 1 []) s p =
          (withChunk first last (entries.filterMap Entry.tx?), s', p)) ∧
        ∀ k < pages, ∃ s', run config base http processor k (atPage first last 1 []) s p =
          (atPage first last (k + 1) (readable entries k), s', p)) ∧
    ∀ k number txs s₁ p₁,
      run config base http processor k (atPage first last 1 []) s p =
        (atPage first last number txs, s₁, p₁) →
      Unusable (pageOf http base first last number s₁) →
      ∃ s', run config base http processor (k + 1) (atPage first last 1 []) s p =
        (⟨first, waiting config⟩, s', p₁) := by
  refine ⟨?_, fun _ _ _ _ _ there unusable => run_unusable there unusable⟩
  intro entries counted lists
  obtain ⟨more, within, complete, earlier⟩ :=
    run_listed config processor lists (Nat.zero_add _) s p
  rw [readable_zero] at complete
  refine ⟨more + 1, by omega, complete, ?_⟩
  intro k fewer
  obtain ⟨s', there⟩ := earlier k fewer
  rw [readable_zero, Nat.zero_add, Nat.zero_add] at there
  exact ⟨s', there⟩

/-! Three transactions, of which one has a height that is no number. -/

def threeEntries : List Entry :=
  [(⟨"150", "A", 0, "", [], []⟩, []), (⟨"x", "B", 0, "", [], []⟩, []),
    (⟨"151", "C", 0, "", [], []⟩, [])]

def threeText : String :=
  (Json.obj [("txs", .arr [.obj [], .obj [], .obj []]),
    ("tx_responses", .arr [
      .obj [("height", .str "150"), ("txhash", .str "A")],
      .obj [("height", .str "x"), ("txhash", .str "B")],
      .obj [("height", .str "151"), ("txhash", .str "C")]]),
    ("total", .str "3")]).compact

/-- A node that gives one answer to everything, or none. -/
def constantNode (body : Option String) : Http Unit where
  get _ s := (body.map fun body => { body }, s)
  sleep _ s := s
  cancelled _ := false

def someNode : Url := { scheme := "http", authority := some "localhost", path := .segments [] }

/-- What the page says, told by parts that can be compared. -/
theorem threeText_parts :
    (pageOf (constantNode (some threeText)) someNode 101 200 1 ()).map
        (fun page => (page.bodies.map List.isEmpty, page.results, page.total)) =
      some ([true, true, true], threeEntries.map (·.1), some 3) := by
  decide +kernel

theorem threeText_lists :
    Lists (constantNode (some threeText)) someNode 101 200 threeEntries true := by
  intro s number positive within
  obtain rfl : number = 1 := Nat.le_antisymm within positive
  obtain ⟨⟨bodies, results, total⟩, came, parts⟩ := Option.map_eq_some_iff.mp threeText_parts
  simp only [Prod.mk.injEq, List.map_eq_cons_iff, List.map_eq_nil_iff, List.isEmpty_iff] at parts
  obtain ⟨⟨_, _, rfl, rfl, _, _, rfl, rfl, _, _, rfl, rfl, rfl⟩, rfl, rfl⟩ := parts
  exact came

theorem fetched_complete_three :
    Lists (constantNode (some threeText)) someNode 101 200 threeEntries true ∧
    (∃ pages ≤ 1, ∃ s', run ⟨100, 5000, 100, 3000⟩ someNode (constantNode (some threeText))
        ScriptedProcessor.processor pages (atPage 101 200 1 []) () {} =
      (withChunk 101 200 [⟨"A", 150, "", 0, []⟩, ⟨"C", 151, "", 0, []⟩], s', {})) ∧
    ∃ s', run ⟨100, 5000, 100, 3000⟩ someNode (constantNode none)
        ScriptedProcessor.processor 1 (atPage 101 200 1 []) () {} =
      (⟨101, .pausing 5000 none⟩, s', {}) := by
  have listed := (fetched_complete ⟨100, 5000, 100, 3000⟩ someNode (constantNode (some threeText))
    ScriptedProcessor.processor 101 200 () {}).1 threeEntries true threeText_lists
  have broken := (fetched_complete ⟨100, 5000, 100, 3000⟩ someNode (constantNode none)
    ScriptedProcessor.processor 101 200 () {}).2 0 1 [] () {} rfl
  obtain ⟨pages, within, complete, -⟩ := listed
  exact ⟨threeText_lists, ⟨pages, within, complete⟩, broken trivial⟩

end PoolIndexer.Feed
