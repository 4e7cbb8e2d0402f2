import PoolIndexer.Proofs.Indexer.Rebuilding
import PoolIndexer.Proofs.Lcd.Listing
import PoolIndexer.Proofs.Runs

/-! The pools of pairs, asked for in batches. The batches are the addresses in runs, so each answer
stands at the place of its address, however many results a batch came with, and a pair is given the
pool that was answered for its address. -/
namespace PoolIndexer.Lcd

variable {σ τ : Type} {lcd : Lcd} {http : Http σ} {height : Nat} {addresses : List String}

/-! ## Batches -/

/-- The query for the pools of a batch. -/
def batchQuery (addresses : List String) : ContractQuery :=
  .aggregate (addresses.map fun address => (address, Base64.ofText ContractQuery.pool.text))

/-- A batch that was asked for: its addresses, the attempts at its query, and the results. -/
structure PoolBatch where
  addresses : List String
  attempts : List Attempt
  results : List CallResult

/-- The query for the batch was answered with the results. -/
def PoolBatch.Asked (b : PoolBatch) (lcd : Lcd) (height : Nat) : Prop :=
  lcd.Asked lcd.multicall (batchQuery b.addresses) (some height) aggregate? b.attempts
    (.ok b.results)

/-- The pool at a place, which is a place in one of the batches. There is one if there is a result
at that place, of a call that succeeded, and its data decodes. -/
def poolAt (served : List PoolBatch) (i : Nat) : Option Pool := do
  let b ← served[i / batchSize]?
  let result ← b.results[i % batchSize]?
  if result.success then
    let bytes ← Base64.decode? result.data.toList
    let document ← Json.documentOfBytes? bytes
    Pool.ofDocument? .text document
  else none

theorem poolAt_eq (served : List PoolBatch) (i : Nat) :
    poolAt served i = ((served[i / batchSize]?).bind (·.results[i % batchSize]?)).bind pool? := by
  rw [Option.bind_assoc]
  rfl

theorem alignedPools_eq (addresses : List String) (results : List CallResult) :
    alignedPools addresses results =
      (List.range addresses.length).map fun i => (results[i]?).bind pool? := by
  rw [alignedPools, List.range_eq_range', ← List.zipIdx_map_snd 0 addresses, List.map_map]
  rfl

/-- Put together, the pools of the batches are those at all places. -/
theorem flatten_alignedPools {served : List PoolBatch}
    (cut : served.map (·.addresses) = runs batchSize addresses) :
    (served.map fun b => alignedPools b.addresses b.results).flatten =
      (List.range addresses.length).map (poolAt served) := by
  -- The induction is on the runs; a place beyond the first run is one in the runs after it.
  induction addresses using runs.induct batchSize generalizing served with
  | case1 =>
    rw [runs, List.map_eq_nil_iff] at cut
    subst cut
    rfl
  | case2 a rest ih =>
    rw [runs_cons] at cut
    obtain ⟨b, others, rfl, here, later⟩ := List.map_eq_cons_iff.mp cut
    have inside : b.addresses.length = min batchSize (rest.length + 1) := by
      rw [here, List.length_cons, List.length_take]
      simp only [batchSize]
      omega
    have outside : (rest.drop (batchSize - 1)).length = rest.length + 1 - b.addresses.length := by
      rw [List.length_drop, inside]
      simp only [batchSize]
      omega
    have total : (a :: rest).length = b.addresses.length + (rest.drop (batchSize - 1)).length := by
      rw [List.length_cons]
      omega
    rw [List.map_cons, List.flatten_cons, ih later, alignedPools_eq, total, List.range_add,
      List.map_append, List.map_map]
    congr 1
    · refine List.map_congr_left fun i member => ?_
      have low : i < batchSize := by
        have := List.mem_range.mp member
        omega
      rw [poolAt_eq, Nat.div_eq_of_lt low, Nat.mod_eq_of_lt low]
      rfl
    · refine List.map_congr_left fun i member => ?_
      have full : b.addresses.length = batchSize := by
        have := List.mem_range.mp member
        omega
      rw [Function.comp_apply, full, poolAt_eq, poolAt_eq, Nat.add_div_left _ (by decide),
        Nat.add_mod_left, List.getElem?_cons_succ]

/-! ## Asking for batches -/

/-- What asking for batches comes to: all of them are served, or a query is given up. -/
inductive Batched (lcd : Lcd) (height : Nat) (batches : List (List String)) :
    List Attempt → Except LcdError (List (Option Pool)) → Prop
  | served (served : List PoolBatch) : served.map (·.addresses) = batches →
    (∀ b ∈ served, b.Asked lcd height) → ¬ GaveUp aggregate? (served.flatMap (·.attempts)) →
    Batched lcd height batches (served.flatMap (·.attempts))
      (.ok (served.map fun b => alignedPools b.addresses b.results).flatten)
  | givenUp {record : List Attempt} : GaveUp aggregate? record →
    Batched lcd height batches record (.error (.failed lcd.multicall))
  | notABase : (∀ query, lcd.request? lcd.multicall query (some height) = none) →
    Batched lcd height batches [] (.error (.notABase lcd.base))

/-- An address that admits no query admits none at all. -/
theorem request?_eq_none {contract : String} {query : ContractQuery} {height : Option Nat}
    (refused : lcd.request? contract query height = none) (other : ContractQuery) :
    lcd.request? contract other height = none := by
  unfold request? Url.extend? at refused ⊢
  cases path : lcd.base.path with
  | whole text => rfl
  | segments base =>
    rw [path] at refused
    cases refused

theorem batch_answered {results : List CallResult} {s s' : σ}
    (answered : lcd.ask http lcd.multicall (batchQuery addresses) (some height) aggregate? s =
      (.ok results, s')) :
    lcd.batch http height addresses s = (.ok (alignedPools addresses results), s') := by
  unfold batchQuery at answered
  rw [batch, answered]

theorem batch_failed {e : LcdError} {s s' : σ}
    (failed : lcd.ask http lcd.multicall (batchQuery addresses) (some height) aggregate? s =
      (.error e, s')) :
    lcd.batch http height addresses s = (.error e, s') := by
  unfold batchQuery at failed
  rw [batch, failed]

theorem recorded_batches {batches : List (List String)} {s s' : σ}
    {result : Except LcdError (List (Option Pool))}
    (done : lcd.batches http height batches s = (result, s')) (record : List Attempt) :
    ∃ attempts, Batched lcd height batches attempts result ∧
      lcd.batches http.recorded height batches (s, record) = (result, s', record ++ attempts) := by
  induction batches generalizing s s' result record with
  | nil =>
    cases done
    exact ⟨[], .served [] rfl (by simp) not_gaveUp_nil, by
      rw [Lcd.batches, List.append_nil]⟩
  | cons addresses rest ih =>
    rcases answered : lcd.ask http lcd.multicall (batchQuery addresses) (some height) aggregate? s
      with ⟨answer, u⟩
    obtain ⟨attempts, asked, recorded⟩ := recorded_ask answered record
    rw [Lcd.batches] at done ⊢
    cases asked with
    | notABase refused =>
      rw [batch_failed answered] at done
      rw [batch_failed recorded]
      cases done
      exact ⟨[], .notABase (request?_eq_none refused), rfl⟩
    | givenUp made givenUp =>
      rw [batch_failed answered] at done
      rw [batch_failed recorded]
      cases done
      exact ⟨attempts, .givenUp givenUp.gaveUp, rfl⟩
    | @answered request _ results made brought =>
      rw [batch_answered answered] at done
      rw [batch_answered recorded]
      dsimp only at done ⊢
      rcases continued : lcd.batches http height rest u with ⟨others, v⟩
      obtain ⟨later, came, shown⟩ := ih continued (record ++ attempts)
      rw [continued] at done
      rw [shown]
      cases came with
      | served served cut all kept =>
        cases done
        refine ⟨attempts ++ served.flatMap (·.attempts),
          .served (⟨addresses, attempts, results⟩ :: served) ?_ ?_ ?_, ?_⟩
        · rw [List.map_cons, cut]
        · exact List.forall_mem_cons.mpr ⟨.answered made brought, all⟩
        · rwa [List.flatMap_cons, brought.gaveUp_append]
        · rw [List.append_assoc]
      | givenUp gaveUp =>
        cases done
        exact ⟨attempts ++ later, .givenUp ((brought.gaveUp_append later).mpr gaveUp), by
          rw [List.append_assoc]⟩
      | notABase refused =>
        rw [refused] at made
        cases made

/-! ## Places -/

/-- The batches hold the addresses in order, each at the place that is counted off. -/
structure Cut (addresses : List String) (served : List PoolBatch) : Prop where
  whole : served.flatMap (·.addresses) = addresses
  sizes : ∀ b ∈ served, 0 < b.addresses.length ∧ b.addresses.length ≤ batchSize
  places : ∀ i : Nat, addresses[i]? = (served[i / batchSize]?).bind (·.addresses[i % batchSize]?)

theorem cut_runs {served : List PoolBatch}
    (cut : served.map (·.addresses) = runs batchSize addresses) : Cut addresses served where
  whole := by rw [List.flatMap_def, cut, flatten_runs]
  sizes b member := by
    have among : b.addresses ∈ runs batchSize addresses := by
      rw [← cut]
      exact List.mem_map_of_mem member
    exact length_of_mem_runs (by decide) among
  places i := by
    have place := runs_place addresses (i / batchSize) (Nat.mod_lt i (y := batchSize) (by decide))
    rw [← cut, List.getElem?_map, Nat.div_add_mod'] at place
    rw [← place]
    cases served[i / batchSize]? <;> rfl

/-- Every pair is given the pool at the place of its address. -/
theorem resolvePools_aligned {chain : Chain} {pairs : List Pair} {pools : List (Option Pool)}
    (distinct : (pairs.map (·.address)).Nodup)
    (answered : chain.pools (pairs.map (·.address)) height = .ok pools) (w : World τ) :
    ∃ snapshot v, Indexer.resolvePools chain pairs height w = (.ok snapshot, v) ∧
      ∀ (i : Nat) (pair : Pair), pairs[i]? = some pair →
        snapshot.get? pair.address =
          some (((pools[i]?).getD none).getD (.empty pair.base pair.quote)) := by
  obtain ⟨v, resolved⟩ := Indexer.resolvePools_answered answered w
  exact ⟨_, v, resolved, fun i pair there => Snapshot.get?_ofAnswers distinct there pools height⟩

theorem getD_poolAt {served : List PoolBatch} {i : Nat} (within : i < addresses.length) :
    (((List.range addresses.length).map (poolAt served))[i]?).getD none = poolAt served i := by
  rw [List.getElem?_map, List.getElem?_range within]
  rfl

/-- Unless the query for a batch is given up, or the node's address admits none, the addresses are
asked for in order, in batches of up to twenty, and each has the pool at its own place in its own
batch. Pairs with different addresses are then given the pools at their places, or empty ones. -/
theorem pools_aligned (lcd : Lcd) (http : Http σ) (addresses : List String) (height : Nat)
    {s s' : σ} {result : Except LcdError (List (Option Pool))}
    (done : lcd.pools http addresses height s = (result, s')) :
    ∃ record, lcd.pools http.recorded addresses height (s, []) = (result, s', record) ∧
      match result with
      | .error e =>
        (e = .failed lcd.multicall ∧ GaveUp aggregate? record) ∨
          (e = .notABase lcd.base ∧ ∀ query, lcd.request? lcd.multicall query (some height) = none)
      | .ok pools =>
        ¬ GaveUp aggregate? record ∧
        ∃ served : List PoolBatch, record = served.flatMap (·.attempts) ∧
          (∀ b ∈ served, b.Asked lcd height) ∧ Cut addresses served ∧
          pools = (List.range addresses.length).map (poolAt served) ∧
          ∀ (chain : Chain) (pairs : List Pair) (w : World τ), pairs.map (·.address) = addresses →
            addresses.Nodup → chain.pools addresses height = .ok pools →
            ∃ snapshot v, Indexer.resolvePools chain pairs height w = (.ok snapshot, v) ∧
              ∀ (i : Nat) (pair : Pair), pairs[i]? = some pair →
                snapshot.get? pair.address =
                  some ((poolAt served i).getD (.empty pair.base pair.quote)) := by
  obtain ⟨record, batched, recorded⟩ := recorded_batches done []
  refine ⟨record, recorded, ?_⟩
  cases batched with
  | givenUp gaveUp => exact .inl ⟨rfl, gaveUp⟩
  | notABase refused => exact .inr ⟨rfl, refused⟩
  | served served cut asked kept =>
    refine ⟨kept, served, rfl, asked, cut_runs cut, flatten_alignedPools cut, ?_⟩
    intro chain pairs w named distinct answered
    rw [flatten_alignedPools cut] at answered
    subst named
    obtain ⟨snapshot, v, resolved, given⟩ := resolvePools_aligned distinct answered w
    refine ⟨snapshot, v, resolved, fun i pair there => ?_⟩
    have within : i < (pairs.map (·.address)).length := by
      rw [List.length_map]
      exact (List.getElem?_eq_some_iff.mp there).1
    rw [given i pair there, getD_poolAt within]

/-! Pairs in two batches. The first one is answered with too few results: of three, one comes from
a call that failed although its data is that of a pool, and one does not decode. The second one is
answered with too many. -/

def hubAddresses : List String := (hubPairs.take 21).map (·.address)

def resultText (results : List CallResult) : String :=
  listText "return_data" <| results.map fun r =>
    .obj [("success", .bool r.success), ("data", .str r.data)]

def sharesOf (share : Int) : CallResult := ⟨true, Base64.ofText (Pool.toJson ⟨[], share⟩).compact⟩

def fewResults : List CallResult :=
  [sharesOf 7, { sharesOf 6 with success := false }, ⟨true, "?"⟩]

def manyResults : List CallResult := [sharesOf 8, sharesOf 9]

def hubScript : ScriptedHttp where
  responses := [some { body := resultText fewResults }, some { body := resultText manyResults }]

def hubPools : List (Option Pool) := some ⟨[], 7⟩ :: List.replicate 19 none ++ [some ⟨[], 8⟩]

def hubChain : Chain where
  pools _ _ := .ok hubPools
  factory _ := .ok hubPairs
  supply _ _ := .ok 0
  bond _ _ := .ok 0
  rewards _ _ := .ok []

theorem script_answers {results : List CallResult} {rest : List (Option HttpResponse)}
    {s : ScriptedHttp} (next : s.responses = some { body := resultText results } :: rest)
    (addresses : List String) :
    ∃ s', hubLcd.ask ScriptedHttp.http hubLcd.multicall (batchQuery addresses) (some 100) aggregate?
      s = (.ok results, s') ∧ s'.responses = rest := by
  have read : answer? aggregate? (resultText results) = some results :=
    answer?_listText (fun _ => rfl) (fun _ => rfl) _ _
  obtain ⟨request, made⟩ : ∃ request,
      hubLcd.request? hubLcd.multicall (batchQuery addresses) (some 100) = some request := ⟨_, rfl⟩
  rw [ask, made]
  simp [retry, pauses, attempt, Http.content?, ScriptedHttp.http, ScriptedHttp.get, next,
    HttpResponse.content?, read]

theorem hub_pools : ∃ s', hubLcd.pools ScriptedHttp.http hubAddresses 100 hubScript =
    (.ok hubPools, s') := by
  obtain ⟨first, asked, left⟩ := script_answers (s := hubScript) rfl (hubAddresses.take 20)
  obtain ⟨second, askedAgain, -⟩ := script_answers left (hubAddresses.drop 20)
  have cut : runs batchSize hubAddresses = [hubAddresses.take 20, hubAddresses.drop 20] := by
    decide +kernel
  have aligned : alignedPools (hubAddresses.take 20) fewResults ++
      (alignedPools (hubAddresses.drop 20) manyResults ++ []) = hubPools := by
    decide +kernel
  refine ⟨second, ?_⟩
  simp only [Lcd.pools, cut, batches, batch_answered asked, batch_answered askedAgain, ← aligned]

/-- The results that are there keep their places, in the list and among the pairs. -/
theorem hub_aligned : ∃ s' record,
    hubLcd.pools ScriptedHttp.http.recorded hubAddresses 100 (hubScript, []) =
      (.ok hubPools, s', record) ∧ ¬ GaveUp aggregate? record ∧
    ∃ snapshot v,
      Indexer.resolvePools hubChain (hubPairs.take 21) 100 (⟨(), [], []⟩ : World Unit) =
        (.ok snapshot, v) ∧
      snapshot.get? "pair0" = some ⟨[], 7⟩ ∧ snapshot.get? "pair20" = some ⟨[], 8⟩ ∧
      snapshot.get? "pair1" = some (.empty (.native "uusd") (.token "token1")) := by
  obtain ⟨s', done⟩ := hub_pools
  obtain ⟨record, recorded, kept, served, -, -, -, placed, resolves⟩ :=
    pools_aligned (τ := Unit) hubLcd ScriptedHttp.http hubAddresses 100 done
  obtain ⟨snapshot, v, resolved, given⟩ :=
    resolves hubChain (hubPairs.take 21) ⟨(), [], []⟩ rfl (by decide +kernel) rfl
  have places : ∀ i < 21, snapshot.get? (hubPair i).address =
      some (((hubPools[i]?).getD none).getD (.empty (hubPair i).base (hubPair i).quote)) := by
    intro i within
    have there : (hubPairs.take 21)[i]? = some (hubPair i) := by
      rw [List.getElem?_take_of_lt within, hubPairs, List.getElem?_map, List.getElem?_range]
      · rfl
      · exact Nat.lt_trans within (by decide)
    rw [given i _ there, placed, getD_poolAt within]
  exact ⟨s', record, recorded, kept, snapshot, v, resolved, places 0 (by decide),
    places 20 (by decide), places 1 (by decide)⟩

end PoolIndexer.Lcd
