import Mathlib.Data.List.Chain
import PoolIndexer.Feed.Source

/-! What a feed delivers. The ranges of its chunks lie end to end from the height it starts at, a
chunk that is refused is what it delivers next, and once it has seen that it is to stop it does
nothing more. -/
namespace PoolIndexer.Feed

variable {σ τ : Type} {config : FeedConfig} {base : Url} {http : Http σ} {processor : Processor τ}

/-! ## Runs and their logs -/

/-- A demand of the feed, and what happened in answer to it. -/
structure Exchange where
  demand : Demand
  event : Event

/-- What a feed from an offset can come to, with the log of its exchanges. Between exchanges
anything may happen to the node and to the processor. -/
inductive Follows (config : FeedConfig) (base : Url) (http : Http σ) (processor : Processor τ)
    (offset : Nat) : List Exchange → State → σ → τ → Prop
  | start (s : σ) (p : τ) : Follows config base http processor offset [] { offset } s p
  | meanwhile {log : List Exchange} {state : State} {s : σ} {p : τ}
      (before : Follows config base http processor offset log state s p) (s' : σ) (p' : τ) :
      Follows config base http processor offset log state s' p'
  | exchange {log : List Exchange} {state : State} {s s' : σ} {p p' : τ} {event : Event}
      (before : Follows config base http processor offset log state s p)
      (met : meet base http processor state.demand s p = (some event, s', p')) :
      Follows config base http processor offset (log ++ [⟨state.demand, event⟩])
        (state.advance config event) s' p'

/-- The exchanges of a run. -/
def exchanges (config : FeedConfig) (base : Url) (http : Http σ) (processor : Processor τ) :
    Nat → State → σ → τ → List Exchange
  | 0, _, _, _ => []
  | steps + 1, state, s, p =>
    match meet base http processor state.demand s p with
    | (none, _, _) => []
    | (some event, s, p) =>
      ⟨state.demand, event⟩ ::
        exchanges config base http processor steps (state.advance config event) s p

/-- A run leads to where its exchanges lead. -/
theorem run_follows {offset : Nat} {log : List Exchange} {state : State} {s : σ} {p : τ}
    (follows : Follows config base http processor offset log state s p) (steps : Nat) :
    ∃ s' p', Follows config base http processor offset
      (log ++ exchanges config base http processor steps state s p)
      (run config base http processor steps state s p).1 s' p' := by
  induction steps generalizing log state s p with
  | zero => exact ⟨s, p, by simpa [exchanges, run] using follows⟩
  | succ steps ih =>
    rcases met : meet base http processor state.demand s p with ⟨event | event, s', p'⟩
    · exact ⟨s, p, by simpa [exchanges, run, met] using follows⟩
    · simpa [exchanges, run, met] using ih (follows.exchange met)

/-- The events that answer a demand. -/
inductive Answers : Demand → Event → Prop
  | mayPoll (granted : Bool) : Answers .mayPoll (.permission granted)
  | latestHeight (height : Option Nat) : Answers .latestHeight (.latestHeight height)
  | page (first last number : Nat) (page : Option TxPage) :
      Answers (.page first last number) (.page page)
  | deliver (chunk : Chunk) (accepted : Bool) : Answers (.deliver chunk) (.delivered accepted)
  | mayRedeliver (granted : Bool) : Answers .mayRedeliver (.permission granted)
  | pause (time : Nat) (cancelled : Bool) : Answers (.pause time) (.paused cancelled)

theorem meet_answers {demand : Demand} {event : Event} {s s' : σ} {p p' : τ}
    (met : meet base http processor demand s p = (some event, s', p')) :
    Answers demand event := by
  cases demand with
  | nothing => simp [meet] at met
  | mayPoll => cases met; exact .mayPoll _
  | latestHeight => cases met; exact .latestHeight _
  | page first last number => cases met; exact .page first last number _
  | deliver chunk => cases met; exact .deliver chunk _
  | mayRedeliver => cases met; exact .mayRedeliver _
  | pause time => cases met; exact .pause time _

/-- Every exchange of a log began where the exchanges before it had led. -/
theorem Follows.origin {offset : Nat} {log : List Exchange} {state : State} {s : σ} {p : τ}
    (follows : Follows config base http processor offset log state s p)
    {before after : List Exchange} {x : Exchange} (split : log = before ++ x :: after) :
    ∃ state s p, Follows config base http processor offset before state s p ∧
      x.demand = state.demand ∧ Answers x.demand x.event := by
  induction follows generalizing after with
  | start => simp at split
  | meanwhile _ _ _ ih => exact ih split
  | @exchange log state s s' p p' event earlier met ih =>
    rcases List.eq_nil_or_concat after with rfl | ⟨rest, last, rfl⟩
    · obtain ⟨rfl, same⟩ := List.append_inj' split rfl
      cases same
      exact ⟨state, s, p, earlier, rfl, meet_answers met⟩
    · rw [List.concat_eq_append, ← List.cons_append, ← List.append_assoc] at split
      exact ih (List.append_inj' split rfl).1

/-! ## What a log tells of the deliveries -/

/-- A chunk that was given to the processor, with what had gone before. -/
structure Delivery where
  /-- The height that the last poll reported. -/
  latest : Nat
  /-- The range of heights whose transactions were asked for last, from the first page on. -/
  first : Nat
  last : Nat
  asked : List Nat
  /-- The transactions on the pages that came. -/
  txs : List Tx
  chunk : Chunk
  accepted : Bool

/-- A log read from its beginning. -/
structure Account where
  latest : Nat := 0
  first : Nat := 0
  last : Nat := 0
  asked : List Nat := []
  txs : List Tx := []
  deliveries : List Delivery := []

/-- The transactions of a page, if it came and is sound. -/
def received (page : Option TxPage) : List Tx := (page.bind (·.txs.toOption)).getD []

/-- A first page or another range begins anew. -/
def Account.ask (a : Account) (first last number : Nat) (page : Option TxPage) : Account :=
  if number ≠ 1 ∧ first = a.first ∧ last = a.last then
    { a with asked := a.asked ++ [number], txs := a.txs ++ received page }
  else { a with first, last, asked := [number], txs := received page }

def Account.delivery (a : Account) (chunk : Chunk) (accepted : Bool) : Delivery :=
  ⟨a.latest, a.first, a.last, a.asked, a.txs, chunk, accepted⟩

def Account.note (a : Account) : Exchange → Account
  | ⟨.latestHeight, .latestHeight (some latest)⟩ => { a with latest }
  | ⟨.page first last number, .page page⟩ => a.ask first last number page
  | ⟨.deliver chunk, .delivered accepted⟩ =>
    { a with deliveries := a.deliveries ++ [a.delivery chunk accepted] }
  | _ => a

def account (log : List Exchange) : Account := log.foldl Account.note {}

theorem account_append (log : List Exchange) (x : Exchange) :
    account (log ++ [x]) = (account log).note x := by
  simp [account]

/-- The blocks of a chunk at most. -/
def chunkSize (config : FeedConfig) : Nat := max config.chunkLimit 1

/-- What may come after a delivery: the next range if it was accepted, the same again if not. -/
def Delivery.Precedes (d d' : Delivery) : Prop :=
  if d.accepted then d'.first = d.last + 1
  else d'.chunk = d.chunk ∧ d'.first = d.first ∧ d'.last = d.last

/-- The chunk holds the transactions of a range within bounds, page by page. -/
structure Delivery.Sound (config : FeedConfig) (d : Delivery) : Prop where
  chunk : d.chunk = ⟨d.txs, d.last⟩
  pages : ∃ more, d.asked = List.range' 1 (more + 1)
  ordered : d.first ≤ d.last
  bounded : d.last ≤ d.first + chunkSize config - 1
  reported : d.last ≤ d.latest

/-- A range may begin at a height: behind the last one, if that was accepted. -/
structure Vacant (offset : Nat) (deliveries : List Delivery) (first : Nat) : Prop where
  beginning : deliveries = [] → first = offset
  behind : ∀ d ∈ deliveries.getLast?, d.accepted = true ∧ first = d.last + 1

/-- A delivery may come next. -/
structure Continues (offset : Nat) (deliveries : List Delivery) (d : Delivery) : Prop where
  beginning : deliveries = [] → d.first = offset
  behind : ∀ e ∈ deliveries.getLast?, e.Precedes d

/-- Deliveries that lie end to end from an offset on. -/
structure Tiles (config : FeedConfig) (offset : Nat) (deliveries : List Delivery) : Prop where
  beginning : ∀ d ∈ deliveries.head?, d.first = offset
  chain : deliveries.IsChain Delivery.Precedes
  sound : ∀ d ∈ deliveries, d.Sound config

variable {offset : Nat} {deliveries : List Delivery}

theorem Vacant.continues {first : Nat} (vacant : Vacant offset deliveries first) {d : Delivery}
    (at_first : d.first = first) : Continues offset deliveries d where
  beginning empty := at_first.trans (vacant.beginning empty)
  behind e member := by
    obtain ⟨accepted, next⟩ := vacant.behind e member
    simp [Delivery.Precedes, accepted, at_first, next]

theorem Tiles.append (tiles : Tiles config offset deliveries) {d : Delivery}
    (continues : Continues offset deliveries d) (sound : d.Sound config) :
    Tiles config offset (deliveries ++ [d]) where
  beginning e member := by
    cases deliveries with
    | nil =>
      simp only [List.nil_append, List.head?_cons, Option.mem_def, Option.some.injEq] at member
      rw [← member]
      exact continues.beginning rfl
    | cons head rest => exact tiles.beginning e member
  chain := by
    apply List.isChain_append.mpr
    refine ⟨tiles.chain, List.isChain_singleton d, ?_⟩
    intro e last f head
    simp only [List.head?_cons, Option.mem_def, Option.some.injEq] at head
    rw [← head]
    exact continues.behind e last
  sound e member := by
    rcases List.mem_append.mp member with earlier | last
    · exact tiles.sound e earlier
    · rw [List.mem_singleton.mp last]
      exact sound

/-! ## Where a feed stands -/

theorem height_of_lt {n : Nat} (fits : n < twoTo 64) : height n = n := Nat.mod_eq_of_lt fits

theorem chunkSize_pos : 0 < chunkSize config := Nat.le_max_right _ _

/-- Without overflow a range begins where it should, and is bounded as it should be. -/
theorem lastHeight_bounds {first latest : Nat} (room : first + chunkSize config < twoTo 64)
    (reached : first ≤ latest) : first ≤ lastHeight config first latest ∧
      lastHeight config first latest ≤ first + chunkSize config - 1 ∧
      lastHeight config first latest ≤ latest := by
  have positive : 0 < chunkSize config := chunkSize_pos
  have exact_ : height (first + chunkSize config - 1) = first + chunkSize config - 1 :=
    height_of_lt (by omega)
  unfold lastHeight
  rw [show max config.chunkLimit 1 = chunkSize config from rfl, exact_]
  omega

/-- A chunk is to be delivered: it is the one of the range asked for, from an offset on. -/
structure Due (config : FeedConfig) (offset : Nat) (a : Account) (first : Nat) (chunk : Chunk) :
    Prop where
  begins : a.first = first
  sound : ∀ accepted, (a.delivery chunk accepted).Sound config
  continues : ∀ accepted, Continues offset a.deliveries (a.delivery chunk accepted)
  room : first + chunkSize config < twoTo 64

/-- The pages before the one with a number have brought transactions. -/
structure Gathered (a : Account) (first last number : Nat) (txs : List Tx) : Prop where
  counted : 1 ≤ number
  beginning : number = 1 → txs = []
  later : number ≠ 1 → a.first = first ∧ a.last = last ∧ a.txs = txs ∧
    a.asked = List.range' 1 (number - 1)

/-- What the log of a feed has to do with its phase. -/
def Stands (config : FeedConfig) (offset : Nat) (a : Account) (state : State) : Prop :=
  match state.phase with
  | .idle | .polling | .pausing _ none => Vacant offset a.deliveries state.offset
  | .fetching last number txs =>
    Vacant offset a.deliveries state.offset ∧ Gathered a state.offset last number txs ∧
      state.offset ≤ a.latest ∧ last = lastHeight config state.offset a.latest
  | .delivering chunk _ | .refused chunk _ | .pausing _ (some (chunk, _)) =>
    Due config offset a state.offset chunk
  | .stopped => True

/-- A chunk that is refused is due again. -/
theorem Due.refused {a : Account} {first : Nat} {chunk : Chunk}
    (due : Due config offset a first chunk) :
    Due config offset (a.note ⟨.deliver chunk, .delivered false⟩) first chunk where
  begins := due.begins
  sound := due.sound
  continues accepted := by
    constructor
    · simp [Account.note]
    · simp [Account.note, Delivery.Precedes, Account.delivery]
  room := due.room

/-- Behind a chunk that is accepted begins the next range. -/
theorem Due.accepted {a : Account} {first : Nat} {chunk : Chunk}
    (due : Due config offset a first chunk) :
    Vacant offset (a.note ⟨.deliver chunk, .delivered true⟩).deliveries
      (height (chunk.newHeight + 1)) := by
  have sound := due.sound true
  have positive : 0 < chunkSize config := chunkSize_pos
  have last : chunk.newHeight = a.last := congrArg Chunk.newHeight sound.chunk
  have bounded : a.last ≤ a.first + chunkSize config - 1 := sound.bounded
  have room := due.room
  have begins := due.begins
  rw [height_of_lt (by omega)]
  constructor
  · simp [Account.note]
  · simp [Account.note, Account.delivery, last]

/-- A page of a range is put to those before it. -/
theorem Gathered.ask {a : Account} {first last number : Nat} {txs : List Tx}
    (gathered : Gathered a first last number txs) (page : Option TxPage) :
    a.ask first last number page =
      { a with first, last, asked := List.range' 1 number, txs := txs ++ received page } := by
  obtain ⟨counted, beginning, later⟩ := gathered
  by_cases one : number = 1
  · subst one
    simp [Account.ask, beginning rfl]
  · obtain ⟨rfl, rfl, rfl, asked⟩ := later one
    have longer : List.range' 1 (number - 1) ++ [number] = List.range' 1 number := by
      obtain ⟨before, rfl⟩ : ∃ before, number = before + 1 := ⟨number - 1, by omega⟩
      simp [List.range'_concat, Nat.add_comm]
    simp [Account.ask, one, asked, longer]

/-- The pages of a range are all there: its chunk is due. -/
theorem due_of_range {a : Account} {first : Nat} (vacant : Vacant offset a.deliveries first)
    (room : first + chunkSize config < twoTo 64) (reached : first ≤ a.latest)
    (begins : a.first = first) (ends : a.last = lastHeight config first a.latest)
    (pages : ∃ more, a.asked = List.range' 1 (more + 1)) :
    Due config offset a first ⟨a.txs, a.last⟩ where
  begins := begins
  sound accepted := by
    have bounds := lastHeight_bounds room reached
    rw [← ends, ← begins] at bounds
    exact ⟨rfl, pages, bounds.1, bounds.2.1, bounds.2.2⟩
  continues accepted := vacant.continues begins
  room := room

/-! ## One exchange -/

/-- The heights of a range that is asked for do not overflow a word. -/
def Demand.Fits (config : FeedConfig) : Demand → Prop
  | .page first _ _ => first + chunkSize config < twoTo 64
  | _ => True

theorem stands_page {a : Account} {first last number : Nat} {txs : List Tx}
    (vacant : Vacant offset a.deliveries first) (gathered : Gathered a first last number txs)
    (reached : first ≤ a.latest) (ends : last = lastHeight config first a.latest)
    (room : first + chunkSize config < twoTo 64) (page : Option TxPage) :
    Stands config offset (a.note ⟨.page first last number, .page page⟩)
      ⟨first, afterPage config last number txs page⟩ := by
  have counted := gathered.counted
  rw [show a.note ⟨.page first last number, .page page⟩ = a.ask first last number page from rfl,
    gathered.ask page]
  cases page with
  | none => exact vacant
  | some page =>
    cases read : page.txs with
    | error misaligned =>
      simp only [afterPage, read]
      exact vacant
    | ok more =>
      have came : received (some page) = more := by simp [received, read, Except.toOption]
      by_cases complete : isLastPage page (txs ++ more).length = true
      · have pages : ∃ earlier, List.range' 1 number = List.range' 1 (earlier + 1) :=
          ⟨number - 1, by rw [Nat.sub_add_cancel counted]⟩
        simp only [afterPage, read, complete, if_true, Stands, came]
        exact due_of_range vacant room reached rfl ends pages
      · simp only [afterPage, read, complete, Stands, came]
        exact ⟨vacant, ⟨by omega, by omega, fun _ => ⟨rfl, rfl, rfl, rfl⟩⟩, reached, ends⟩

theorem stands_exchange {a : Account} {state : State} {event : Event}
    (stands : Stands config offset a state) (answers : Answers state.demand event)
    (fits : state.demand.Fits config) :
    Stands config offset (a.note ⟨state.demand, event⟩) (state.advance config event) := by
  obtain ⟨first, phase⟩ := state
  cases phase with
  | idle =>
    cases answers with
    | mayPoll granted => cases granted; exacts [trivial, stands]
  | polling =>
    cases answers with
    | latestHeight height =>
      cases height with
      | none => exact stands
      | some latest =>
        by_cases behind : latest < first
        · have here : Vacant offset a.deliveries first := stands
          simp [State.advance, State.demand, behind, Stands, waiting, Account.note, here]
        · have here : Vacant offset a.deliveries first := stands
          have reached : first ≤ latest := Nat.le_of_not_lt behind
          have gathered : Gathered { a with latest } first (lastHeight config first latest) 1 [] :=
            ⟨Nat.le_refl 1, fun _ => rfl, fun other => absurd rfl other⟩
          simp [State.advance, State.demand, behind, Stands, Account.note, here, reached, gathered]
  | fetching last number txs =>
    obtain ⟨vacant, gathered, reached, ends⟩ := stands
    cases answers with
    | page _ _ _ page => exact stands_page vacant gathered reached ends fits page
  | delivering chunk refusals =>
    cases answers with
    | deliver _ accepted => cases accepted; exacts [Due.refused stands, Due.accepted stands]
  | refused chunk refusals =>
    cases answers with
    | mayRedeliver granted => cases granted; exacts [trivial, stands]
  | pausing time redelivery =>
    cases answers with
    | pause _ cancelled =>
      cases cancelled with
      | true => trivial
      | false => cases redelivery; exacts [stands, stands]
  | stopped => cases answers

/-- A delivery is the only exchange that adds to the deliveries. -/
theorem tiles_exchange {a : Account} {state : State} {event : Event}
    (tiles : Tiles config offset a.deliveries) (stands : Stands config offset a state)
    (answers : Answers state.demand event) :
    Tiles config offset (a.note ⟨state.demand, event⟩).deliveries := by
  obtain ⟨first, phase⟩ := state
  cases phase with
  | delivering chunk refusals =>
    cases answers with
    | deliver _ accepted =>
      have due : Due config offset a first chunk := stands
      exact tiles.append (due.continues accepted) (due.sound accepted)
  | polling =>
    cases answers with
    | latestHeight height => cases height; exacts [tiles, tiles]
  | fetching last number txs =>
    cases answers with
    | page _ _ _ page =>
      obtain ⟨_, gathered, _⟩ := stands
      change Tiles config offset (a.ask first last number page).deliveries
      rw [gathered.ask page]
      exact tiles
  | idle | refused | pausing => cases answers; exact tiles
  | stopped => cases answers

/-! ## All exchanges -/

section

variable {log : List Exchange} {state : State} {s : σ} {p : τ}

theorem follows_stands (follows : Follows config base http processor offset log state s p)
    (fits : ∀ x ∈ log, x.demand.Fits config) :
    Tiles config offset (account log).deliveries ∧
      Stands config offset (account log) state := by
  induction follows with
  | start =>
    refine ⟨⟨?_, List.isChain_nil, ?_⟩, ?_, ?_⟩
    · simp [account]
    · simp [account]
    · exact fun _ => rfl
    · simp [account]
  | meanwhile before s' p' ih => exact ih fits
  | @exchange log state _ _ _ _ event before met ih =>
    obtain ⟨tiles, stands⟩ := ih fun x member => fits x (List.mem_append_left _ member)
    have answers : Answers state.demand event := meet_answers met
    have room : state.demand.Fits config := fits ⟨state.demand, event⟩ (by simp)
    rw [account_append]
    exact ⟨tiles_exchange tiles stands answers, stands_exchange stands answers room⟩

/-- The processor was seen to have halted, or work to be cancelled. -/
def Event.Stops : Event → Prop
  | .permission granted => granted = false
  | .paused cancelled => cancelled = true
  | _ => False

theorem advance_stops {state : State} {event : Event} (answers : Answers state.demand event)
    (stops : event.Stops) : (state.advance config event).phase = .stopped := by
  obtain ⟨first, phase⟩ := state
  cases event with
  | permission granted =>
    have refused : granted = false := stops
    subst refused
    cases phase with
    | idle => rfl
    | refused chunk refusals => rfl
    | polling | fetching | delivering | pausing | stopped => cases answers
  | paused cancelled =>
    have cut : cancelled = true := stops
    subst cut
    cases phase with
    | pausing time redelivery => rfl
    | idle | polling | fetching | delivering | refused | stopped => cases answers
  | latestHeight | page | delivered => cases stops

theorem follows_stopped (follows : Follows config base http processor offset log state s p)
    {x : Exchange} (member : x ∈ log) (stops : x.event.Stops) : state.phase = .stopped := by
  induction follows with
  | start => simp at member
  | meanwhile _ _ _ ih => exact ih member
  | @exchange log state _ _ _ _ event before met ih =>
    have answers : Answers state.demand event := meet_answers met
    rcases List.mem_append.mp member with earlier | last
    · have silent : state.demand = .nothing := by simp [State.demand, ih earlier]
      rw [silent] at answers
      cases answers
    · rw [List.mem_singleton.mp last] at stops
      exact advance_stops answers stops

/-- Nothing is exchanged any more once the feed has seen that it is to stop. -/
theorem nothing_after_stop (follows : Follows config base http processor offset log state s p)
    {before after : List Exchange} {x : Exchange} (split : log = before ++ x :: after)
    (stops : x.event.Stops) : after = [] := by
  cases after with
  | nil => rfl
  | cons y rest =>
    have later : log = (before ++ [x]) ++ y :: rest := by simp [split]
    obtain ⟨state', _, _, earlier, asked, answers⟩ := follows.origin later
    have stopped : state'.phase = .stopped := follows_stopped earlier (by simp) stops
    have silent : y.demand = .nothing := by simp [asked, State.demand, stopped]
    rw [silent] at answers
    cases answers

/-- Pages are asked for only where the last chunk has been accepted. -/
theorem page_vacant (follows : Follows config base http processor offset log state s p)
    (fits : ∀ x ∈ log, x.demand.Fits config) {before after : List Exchange} {event : Event}
    {first last number : Nat} (split : log = before ++ ⟨.page first last number, event⟩ :: after) :
    Vacant offset (account before).deliveries first := by
  obtain ⟨⟨at_first, phase⟩, _, _, earlier, asked, _⟩ := follows.origin split
  have stands := (follows_stands earlier fun x member => fits x (by simp [split, member])).2
  cases phase with
  | fetching _ _ _ =>
    cases asked
    exact stands.1
  | idle | polling | delivering | refused | pausing | stopped => cases asked

/-- The ranges of the chunks delivered lie end to end from the offset on, none is longer than a
chunk may be or reaches beyond the height polled for it, and a refused chunk is what is delivered
next. Pages are asked for only once the last chunk has been accepted, and nothing at all happens
once the feed has seen that it is to stop. -/
theorem deliveries_tile (follows : Follows config base http processor offset log state s p)
    (fits : ∀ x ∈ log, x.demand.Fits config) :
    Tiles config offset (account log).deliveries ∧
    (∀ before after first last number event,
      log = before ++ ⟨.page first last number, event⟩ :: after →
        Vacant offset (account before).deliveries first) ∧
    ∀ before after x, log = before ++ x :: after → x.event.Stops → after = [] :=
  ⟨(follows_stands follows fits).1,
    fun _ _ _ _ _ _ split => page_vacant follows fits split,
    fun _ _ _ split stops => nothing_after_stop follows split stops⟩

end

/-! A chunk that is refused once, a page that does not come, and a halt after the second chunk. -/

instance (config : FeedConfig) : (demand : Demand) → Decidable (demand.Fits config)
  | .page first _ _ => inferInstanceAs (Decidable (first + chunkSize config < twoTo 64))
  | .mayPoll | .latestHeight | .deliver _ | .mayRedeliver | .pause _ | .nothing => isTrue trivial

def hundredBlocks : FeedConfig := ⟨100, 5000, 100, 3000⟩

def localNode : Url := { scheme := "http", authority := some "localhost", path := .segments [] }

def blockText (height : String) : String :=
  (Json.obj [("block", .obj [("header", .obj [("height", .str height)])])]).compact

/-- A page of one transaction without messages. -/
def pageText (height : String) : String :=
  (Json.obj [("txs", .arr [.obj []]),
    ("tx_responses", .arr [.obj [("height", .str height), ("txhash", .str "A")]])]).compact

def unsteadyNode : ScriptedHttp where
  responses := [some { body := blockText "250" }, some { body := pageText "150" },
    some { body := blockText "240" }, none, some { body := blockText "230" },
    some { body := pageText "220" }]
  stopsAtEnd := true

def onceRefusing : ScriptedProcessor := { answers := [false, true, true], haltAfter := some 3 }

def unsteadyLog : List Exchange :=
  exchanges hundredBlocks localNode ScriptedHttp.http ScriptedProcessor.processor 40
    { offset := 101 } unsteadyNode onceRefusing

theorem deliveries_tile_unsteady :
    (∀ x ∈ unsteadyLog, x.demand.Fits hundredBlocks) ∧
      Tiles hundredBlocks 101 (account unsteadyLog).deliveries ∧
      (∀ before after x, unsteadyLog = before ++ x :: after → x.event.Stops → after = []) ∧
      (account unsteadyLog).deliveries.map
          (fun d => (d.first, d.last, d.latest, d.txs.length, d.accepted)) =
        [(101, 200, 250, 1, false), (101, 200, 250, 1, true), (201, 230, 230, 1, true)] := by
  have start : Follows hundredBlocks localNode ScriptedHttp.http ScriptedProcessor.processor 101
      [] { offset := 101 } unsteadyNode onceRefusing := .start _ _
  obtain ⟨s, p, follows⟩ := run_follows start 40
  have fits : ∀ x ∈ unsteadyLog, x.demand.Fits hundredBlocks := by decide +kernel
  obtain ⟨tiles, -, stops⟩ := deliveries_tile follows fits
  exact ⟨fits, tiles, stops, by decide +kernel⟩

end PoolIndexer.Feed
