import PoolIndexer.Url

/-!
Requests over HTTP, and a server that answers from a script.
-/
namespace PoolIndexer

/-- A request to read something. -/
structure HttpRequest where
  /-- The path and the query. -/
  target : String
  /-- The height of the state that is asked about. -/
  height : Option Nat := none
  deriving DecidableEq, Repr, Inhabited

structure HttpResponse where
  status : Nat := 200
  body : String := ""
  deriving DecidableEq, Repr, Inhabited

/-- The body of an answer, unless its status tells of an error. -/
def HttpResponse.content? (r : HttpResponse) : Option String :=
  if 400 ≤ r.status ∧ r.status ≤ 599 then none else some r.body

/-- A server, together with a clock, that keep a state `σ`. -/
structure Http (σ : Type) where
  /-- Sends a request; there may be no answer. -/
  get : HttpRequest → σ → Option HttpResponse × σ
  /-- Lets a number of milliseconds pass, or fewer if work is to stop. -/
  sleep : Nat → σ → σ
  /-- Work is to stop. -/
  cancelled : σ → Bool

/-- The content that a server answers with. -/
def Http.content? {σ : Type} (http : Http σ) (request : HttpRequest) (s : σ) :
    Option String × σ :=
  let (response, s) := http.get request s
  (response.bind HttpResponse.content?, s)

/-- A server that gives prepared answers in order. -/
structure ScriptedHttp where
  /-- The answers to come, `none` for a request that gets none. -/
  responses : List (Option HttpResponse) := []
  /-- A request after the last answer stops all work, and is not noted. -/
  stopsAtEnd : Bool := false
  /-- The requests, the last one first. -/
  requests : List HttpRequest := []
  cancelled : Bool := false
  /-- The milliseconds slept. -/
  slept : Nat := 0
  deriving Repr, Inhabited

namespace ScriptedHttp

/-- Gives the next answer. After the last one the service is not available. -/
def get (request : HttpRequest) (s : ScriptedHttp) : Option HttpResponse × ScriptedHttp :=
  match s.responses with
  | response :: responses => (response, { s with responses, requests := request :: s.requests })
  | [] =>
    if s.stopsAtEnd then (none, { s with cancelled := true })
    else (some { status := 503 }, { s with requests := request :: s.requests })

def sleep (time : Nat) (s : ScriptedHttp) : ScriptedHttp :=
  if s.cancelled then s else { s with slept := s.slept + time }

def http : Http ScriptedHttp := ⟨get, sleep, cancelled⟩

end ScriptedHttp
end PoolIndexer
