import PoolIndexer.Feed
import PoolIndexer.Http

/-!
The feed at work: its demands are met by a node's web interface and by a processor of chunks.
-/
namespace PoolIndexer

/-- What takes chunks, and keeps a state `τ`. -/
structure Processor (τ : Type) where
  /-- Takes a chunk and tells whether it is accepted. -/
  process : Chunk → τ → Bool × τ
  halted : τ → Bool

namespace Feed

variable {σ τ : Type}

/-- The latest height that a body states. -/
def latestHeight? (body : String) : Option Nat := do
  let field := fun (name : String) (d : Document) =>
    match d.fields? [name] with
    | some [value] => value
    | _ => none
  let block ← field "block" (← Json.document? body)
  let header ← field "header" block
  let height ← field "height" header
  Numeral.word64? (← height.text?).toList

/-- The request for the latest height. -/
def latestRequest? (base : Url) : Option HttpRequest :=
  (base.extend? ["cosmos", "base", "tendermint", "v1beta1", "blocks", "latest"]).map fun url =>
    { target := url.target }

/-- The request for a page of the transactions of a range of heights. -/
def pageRequest? (base : Url) (first last number : Nat) : Option HttpRequest :=
  (base.extend? ["cosmos", "tx", "v1beta1", "txs"]).map fun url =>
    { target := (url.addQuery [
        ("query", "tx.height>=" ++ Numeral.text first ++ " AND tx.height<=" ++ Numeral.text last),
        ("order_by", "ORDER_BY_ASC"),
        ("page", Numeral.text number),
        ("limit", Numeral.text pageSize)]).target }

/-- What a node answers to a request, read from its content. -/
def fetch {α : Type} (http : Http σ) (request : Option HttpRequest) (read : String → Option α)
    (s : σ) : Option α × σ :=
  match request with
  | none => (none, s)
  | some request =>
    let (content, s) := http.content? request s
    (content.bind read, s)

/-- Meets a demand. -/
def meet (base : Url) (http : Http σ) (processor : Processor τ) (demand : Demand) (s : σ) (p : τ) :
    Option Event × σ × τ :=
  match demand with
  | .mayPoll => (some (.permission (!(http.cancelled s || processor.halted p))), s, p)
  | .latestHeight =>
    let (height, s) := fetch http (latestRequest? base) latestHeight? s
    (some (.latestHeight height), s, p)
  | .page first last number =>
    let (page, s) := fetch http (pageRequest? base first last number)
      (fun body => (Json.document? body).bind TxPage.ofDocument?) s
    (some (.page page), s, p)
  | .deliver chunk =>
    let (accepted, p) := processor.process chunk p
    (some (.delivered accepted), s, p)
  | .mayRedeliver => (some (.permission (!processor.halted p)), s, p)
  | .pause time =>
    let s := http.sleep time s
    (some (.paused (http.cancelled s)), s, p)
  | .nothing => (none, s, p)

/-- Runs the feed until it stops, for no more than a number of steps. -/
def run (config : FeedConfig) (base : Url) (http : Http σ) (processor : Processor τ) :
    Nat → State → σ → τ → State × σ × τ
  | 0, state, s, p => (state, s, p)
  | steps + 1, state, s, p =>
    match meet base http processor state.demand s p with
    | (none, s, p) => (state, s, p)
    | (some event, s, p) =>
      run config base http processor steps (state.advance config event) s p

end Feed

/-- A processor that answers as it was told, notes every delivery, and halts after a number of
them. -/
structure ScriptedProcessor where
  /-- The answers to come; after the last one every chunk is accepted. -/
  answers : List Bool := []
  haltAfter : Option Nat := none
  /-- The chunks delivered, the last one first. -/
  deliveries : List Chunk := []
  deriving Repr, Inhabited

namespace ScriptedProcessor

def process (chunk : Chunk) (p : ScriptedProcessor) : Bool × ScriptedProcessor :=
  (p.answers.headD true,
    { p with answers := p.answers.tail, deliveries := chunk :: p.deliveries })

def halted (p : ScriptedProcessor) : Bool :=
  match p.haltAfter with
  | some count => decide (count ≤ p.deliveries.length)
  | none => false

def processor : Processor ScriptedProcessor := ⟨process, halted⟩

end ScriptedProcessor
end PoolIndexer
