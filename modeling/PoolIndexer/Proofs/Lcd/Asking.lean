import PoolIndexer.Lcd
import PoolIndexer.Proofs.Json

/-! What a query to a contract sends, and what comes back. A query is one request that is sent until
an attempt brings an answer, or until all attempts were in vain. In the record of what was sent,
the second shows as that many attempts in vain one after the other. -/
namespace PoolIndexer

namespace Lcd

/-- A request that was sent, with the response to it. -/
structure Attempt where
  request : HttpRequest
  response : Option HttpResponse
  deriving DecidableEq, Repr

/-- The answer in the response. -/
def Attempt.brings? {α : Type} (read : Document → Option α) (a : Attempt) : Option α :=
  (a.response.bind HttpResponse.content?).bind (answer? read)

/-- The attempts that are made at one request: the first, and one after each pause. -/
def mostAttempts : Nat := pauses.length + 1

end Lcd

/-- The server together with a record of what it is asked. -/
def Http.recorded {σ : Type} (http : Http σ) : Http (σ × List Lcd.Attempt) where
  get request s :=
    let (response, left) := http.get request s.1
    (response, left, s.2 ++ [⟨request, response⟩])
  sleep time s := (http.sleep time s.1, s.2)
  cancelled s := http.cancelled s.1

namespace Lcd

variable {σ α : Type} {read : Document → Option α} {request : HttpRequest} {http : Http σ}

/-! ## One request -/

/-- Attempts of which the last brings an answer, the first that any of them brings. -/
structure Answered (read : Document → Option α) (request : HttpRequest) (most : Nat)
    (attempts : List Attempt) (a : α) : Prop where
  requests : ∀ x ∈ attempts, x.request = request
  within : attempts.length ≤ most
  first : ∃ vain last, attempts = vain ++ [last] ∧ (∀ x ∈ vain, x.brings? read = none) ∧
    last.brings? read = some a

/-- All attempts were made, in vain. -/
structure GivenUp (read : Document → Option α) (request : HttpRequest) (most : Nat)
    (attempts : List Attempt) : Prop where
  requests : ∀ x ∈ attempts, x.request = request
  all : attempts.length = most
  vain : ∀ x ∈ attempts, x.brings? read = none

/-- The attempts at a request, and what they come to. -/
inductive Tried (read : Document → Option α) (request : HttpRequest) (most : Nat)
    (attempts : List Attempt) : Except Unit α → Prop
  | answered {a : α} : Answered read request most attempts a → Tried read request most attempts (.ok a)
  | givenUp : GivenUp read request most attempts → Tried read request most attempts (.error ())

theorem Tried.again {most : Nat} {x : Attempt} {rest : List Attempt} {result : Except Unit α}
    (sent : x.request = request) (vain : x.brings? read = none)
    (tried : Tried read request most rest result) :
    Tried read request (most + 1) (x :: rest) result := by
  cases tried with
  | answered answered =>
    obtain ⟨before, last, split, none, brought⟩ := answered.first
    exact .answered ⟨List.forall_mem_cons.mpr ⟨sent, answered.requests⟩,
      Nat.succ_le_succ answered.within,
      x :: before, last, by rw [split, List.cons_append],
      List.forall_mem_cons.mpr ⟨vain, none⟩, brought⟩
  | givenUp givenUp =>
    exact .givenUp ⟨List.forall_mem_cons.mpr ⟨sent, givenUp.requests⟩,
      congrArg (· + 1) givenUp.all, List.forall_mem_cons.mpr ⟨vain, givenUp.vain⟩⟩

/-- One attempt, as it stands in the record. -/
theorem recorded_attempt (http : Http σ) (read : Document → Option α) (request : HttpRequest) (s : σ)
    (record : List Attempt) :
    ∃ x : Attempt, x.request = request ∧
      attempt http.recorded read request (s, record) =
        ((attempt http read request s).1, (attempt http read request s).2, record ++ [x]) ∧
      (attempt http read request s).1 = (x.brings? read).elim (.error ()) .ok := by
  refine ⟨⟨request, (http.get request s).1⟩, rfl, ?_⟩
  simp only [attempt, Attempt.brings?, Http.content?, Http.recorded]
  cases ((http.get request s).1.bind HttpResponse.content?).bind (answer? read) with
  | none => exact ⟨rfl, rfl⟩
  | some a => exact ⟨rfl, rfl⟩

/-- Recording changes nothing about what the attempts come to, and the record shows all of them. -/
theorem recorded_retry {pauses : List Nat} {s s' : σ} {result : Except Unit α}
    (done : retry http.sleep (attempt http read request) pauses s = (result, s'))
    (record : List Attempt) :
    ∃ attempts, Tried read request (pauses.length + 1) attempts result ∧
      retry http.recorded.sleep (attempt http.recorded read request) pauses (s, record) =
        (result, s', record ++ attempts) := by
  -- The attempts follow the pauses; only one that is in vain is followed by another.
  induction pauses generalizing s record with
  | nil =>
    obtain ⟨x, sent, recorded, brought⟩ := recorded_attempt http read request s record
    rw [retry] at done ⊢
    rw [done] at recorded brought
    refine ⟨[x], ?_, recorded⟩
    cases outcome : x.brings? read with
    | none =>
      rw [outcome] at brought
      subst brought
      exact .givenUp ⟨by simpa using sent, rfl, by simpa using outcome⟩
    | some a =>
      rw [outcome] at brought
      subst brought
      exact .answered ⟨by simpa using sent, Nat.le_refl 1, [], x, rfl, by simp, outcome⟩
  | cons pause pauses ih =>
    obtain ⟨x, sent, recorded, brought⟩ := recorded_attempt http read request s record
    rw [retry] at done ⊢
    rw [recorded]
    rcases tried : attempt http read request s with ⟨answer, u⟩
    rw [tried] at done brought
    cases outcome : x.brings? read with
    | none =>
      rw [outcome] at brought
      subst brought
      obtain ⟨rest, others, continued⟩ := ih done (record ++ [x])
      exact ⟨x :: rest, others.again sent outcome, by rw [← List.append_cons] at continued; exact continued⟩
    | some a =>
      rw [outcome] at brought
      subst brought
      cases done
      exact ⟨[x], .answered ⟨by simpa using sent, by simp, [], x, rfl, by simp, outcome⟩, rfl⟩

/-! ## Queries -/

/-- The attempts that a query to a contract makes, and what it comes to. -/
inductive Asked (lcd : Lcd) (contract : String) (query : ContractQuery) (height : Option Nat)
    (read : Document → Option α) : List Attempt → Except LcdError α → Prop
  | answered {request : HttpRequest} {attempts : List Attempt} {a : α} :
    lcd.request? contract query height = some request →
    Answered read request mostAttempts attempts a →
    Asked lcd contract query height read attempts (.ok a)
  | givenUp {request : HttpRequest} {attempts : List Attempt} :
    lcd.request? contract query height = some request →
    GivenUp read request mostAttempts attempts →
    Asked lcd contract query height read attempts (.error (.failed contract))
  | notABase : lcd.request? contract query height = none →
    Asked lcd contract query height read [] (.error (.notABase lcd.base))

theorem recorded_ask {lcd : Lcd} {contract : String} {query : ContractQuery} {height : Option Nat}
    {s s' : σ} {result : Except LcdError α}
    (done : lcd.ask http contract query height read s = (result, s')) (record : List Attempt) :
    ∃ attempts, Asked lcd contract query height read attempts result ∧
      lcd.ask http.recorded contract query height read (s, record) =
        (result, s', record ++ attempts) := by
  unfold ask at done ⊢
  cases made : lcd.request? contract query height with
  | none =>
    rw [made] at done
    cases done
    exact ⟨[], .notABase made, by rw [List.append_nil]⟩
  | some request =>
    rw [made] at done
    rcases tried : retry http.sleep (attempt http read request) pauses s with ⟨outcome, u⟩
    obtain ⟨attempts, shown, recorded⟩ := recorded_retry tried record
    dsimp only at done ⊢
    rw [tried] at done
    rw [recorded]
    cases shown with
    | answered answered =>
      cases done
      exact ⟨attempts, .answered made answered, rfl⟩
    | givenUp givenUp =>
      cases done
      exact ⟨attempts, .givenUp made givenUp, rfl⟩

/-! ## Giving up -/

/-- Some request failed in all attempts at it: the record has that many in vain, one after the
other. -/
def GaveUp (read : Document → Option α) (record : List Attempt) : Prop :=
  ∃ vain, vain <:+: record ∧ vain.length = mostAttempts ∧ ∀ x ∈ vain, x.brings? read = none

theorem not_gaveUp_nil : ¬ GaveUp read [] := by
  rintro ⟨vain, within, length, -⟩
  rw [List.infix_nil.mp within] at length
  exact absurd length (by decide)

theorem GivenUp.gaveUp {attempts : List Attempt}
    (givenUp : GivenUp read request mostAttempts attempts) : GaveUp read attempts :=
  ⟨attempts, List.infix_rfl, givenUp.all, givenUp.vain⟩

/-- A run of elements that goes on after a part of the list takes in what stands there. -/
theorem mem_of_prefix_append_cons {β : Type} {block rest : List β} (before : List β) {b : β}
    (start : block <+: before ++ b :: rest) (longer : before.length < block.length) : b ∈ block := by
  rw [List.prefix_iff_eq_take.mp start, List.take_append]
  obtain ⟨n, more⟩ : ∃ n, block.length - before.length = n + 1 :=
    ⟨_, (Nat.succ_pred_eq_of_pos (Nat.sub_pos_of_lt longer)).symm⟩
  rw [more, List.take_succ_cons]
  exact List.mem_append_right _ List.mem_cons_self

/-- Attempts that brought an answer in the end do not count as given up. -/
theorem Answered.gaveUp_append {attempts : List Attempt} {a : α}
    (answered : Answered read request mostAttempts attempts a) (rest : List Attempt) :
    GaveUp read (attempts ++ rest) ↔ GaveUp read rest := by
  constructor
  · rintro ⟨block, within, length, vain⟩
    obtain ⟨before, last, rfl, -, brought⟩ := answered.first
    have few : before.length < block.length := by
      have := answered.within
      rw [List.length_append, List.length_singleton] at this
      omega
    rw [List.append_assoc, List.singleton_append] at within
    have apart : last ∉ block := fun member => by
      rw [vain last member] at brought
      cases brought
    clear answered
    -- The block cannot begin before the last attempt, since it would take that in.
    induction before with
    | nil =>
      rcases List.infix_cons_iff.mp within with start | later
      · exact absurd (mem_of_prefix_append_cons [] start few) apart
      · exact ⟨block, later, length, vain⟩
    | cons x before ih =>
      rcases List.infix_cons_iff.mp within with start | later
      · exact absurd (mem_of_prefix_append_cons (x :: before) start few) apart
      · exact ih later (Nat.lt_of_succ_lt few)
  · rintro ⟨block, within, length, vain⟩
    exact ⟨block, within.trans (List.suffix_append attempts rest).isInfix, length, vain⟩

/-! ## Answers that are lists -/

/-- The text of an answer that is a list under a name. -/
def listText (name : String) (items : List Json) : String :=
  (Json.obj [("data", .obj [(name, .arr items)])]).compact

/-- A list that is answered is read back if its items are. -/
theorem answer?_listText {toJson : α → Json} {item? : Document → Option α}
    (plain : ∀ a, (toJson a).numberless = true)
    (reads : ∀ a, item? (toJson a).toDocument = some a) (name : String) (items : List α) :
    answer? (soleList? name item?) (listText name (items.map toJson)) = some items := by
  have all : (Json.obj [("data", .obj [(name, .arr (items.map toJson))])]).numberless = true := by
    simp [Json.numberless, Json.fieldsNumberless, Json.itemsNumberless_map plain]
  have sole : soleList? name item? (Json.obj [(name, .arr (items.map toJson))]).toDocument =
      (Json.arr (items.map toJson)).toDocument.list? item? := by
    simp [soleList?, Json.toDocument, Json.toNamedDocuments, Document.fields?, Document.named?,
      Document.sole?]
  rw [answer?, listText, Json.document?_compact all]
  exact sole.trans (Json.list?_toDocument reads items)

end Lcd
end PoolIndexer
