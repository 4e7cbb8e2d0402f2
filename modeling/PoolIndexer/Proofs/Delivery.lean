import PoolIndexer.Proofs.Indexer.Processing

/-! Chunks that are delivered at least once take effect exactly once. Whatever fails, is delivered
again or is started anew, the ledger is that of an indexer which nothing disturbed. -/
namespace PoolIndexer.Delivery

variable {config : IndexerConfig} {truth : Chain} {initial : Store} {chunks : List Chunk}

/-! ## Schedules -/

/-- What can happen to an indexer when `k` chunks have been acknowledged, and how many have been
afterwards. Every query fails or has the answer of `truth`. -/
inductive Step (config : IndexerConfig) (truth : Chain) (chunks : List Chunk) :
    Nat → Indexer Journal → Nat → Indexer Journal → Prop
  /-- From now on the store refuses migrations or commits, or accepts them again. -/
  | outage {k : Nat} {i : Indexer Journal} (refusesMigration refusesCommits : Bool) :
      Step config truth chunks k i k
        { i with world.store := { i.world.store with refusesMigration, refusesCommits } }
  /-- A new indexer takes over the store. -/
  | restart {k : Nat} {i : Indexer Journal} :
      Step config truth chunks k i k (Indexer.start i.world.store)
  | seed {k : Nat} {i i' : Indexer Journal} {chain : Chain} {times : Indexer.SeedTimes}
      {result : Except (List String) Unit} (follows : chain.Follows truth)
      (seeded : Indexer.seed config chain Journal.backend times i = .ok (result, i')) :
      Step config truth chunks k i k i'
  /-- A chunk that was acknowledged comes once more. -/
  | redeliver {k m : Nat} {i i' : Indexer Journal} {chain : Chain} {chunk : Chunk}
      {acknowledged : Bool} (follows : chain.Follows truth) (earlier : m < k)
      (listed : chunks[m]? = some chunk)
      (taken : Indexer.process config chain Journal.backend chunk i = .ok (acknowledged, i')) :
      Step config truth chunks k i k i'
  /-- The next chunk comes, for the first time or again. -/
  | deliver {k : Nat} {i i' : Indexer Journal} {chain : Chain} {chunk : Chunk}
      {acknowledged : Bool} (follows : chain.Follows truth) (next : chunks[k]? = some chunk)
      (taken : Indexer.process config chain Journal.backend chunk i = .ok (acknowledged, i')) :
      Step config truth chunks k i (if acknowledged then k + 1 else k) i'

/-- The indexers that a schedule leads to, with the number of chunks acknowledged. -/
inductive Delivered (config : IndexerConfig) (truth : Chain) (initial : Store)
    (chunks : List Chunk) : Nat → Indexer Journal → Prop
  | start (journal : Journal) (holds : journal.store = initial) :
      Delivered config truth initial chunks 0 (Indexer.start journal)
  | step {k k' : Nat} {i i' : Indexer Journal}
      (before : Delivered config truth initial chunks k i)
      (step : Step config truth chunks k i k' i') :
      Delivered config truth initial chunks k' i'

/-- The indexer that is seeded once and then acknowledges every chunk the first time. -/
inductive Undisturbed (config : IndexerConfig) (truth : Chain) (initial : Store)
    (chunks : List Chunk) : Nat → Indexer Store → Prop
  | seeded {chain : Chain} {times : Indexer.SeedTimes} {i : Indexer Store}
      (follows : chain.Follows truth)
      (seeded : Indexer.seed config chain Store.backend times (Indexer.start initial)
        = .ok (.ok (), i)) :
      Undisturbed config truth initial chunks 0 i
  | accepted {k : Nat} {i i' : Indexer Store} {chain : Chain} {chunk : Chunk}
      (before : Undisturbed config truth initial chunks k i) (follows : chain.Follows truth)
      (next : chunks[k]? = some chunk)
      (taken : Indexer.process config chain Store.backend chunk i = .ok (true, i')) :
      Undisturbed config truth initial chunks (k + 1) i'

/-! ## What holds of every schedule -/

/-- An indexer at work is ready, and no acknowledged chunk lies above the stored checkpoint. -/
structure Sound (truth : Chain) (config : IndexerConfig) (chunks : List Chunk) (k : Nat)
    (i : Indexer Journal) : Prop where
  ready : i.run.phase = .running → Indexer.Ready Journal.store truth config i
  reached : ∀ {m chunk}, m < k → chunks[m]? = some chunk →
    i.world.store.store.ledger.Reached chunk.newHeight

theorem step_sound {k k' : Nat} {i i' : Indexer Journal} (sound : Sound truth config chunks k i)
    (step : Step config truth chunks k i k' i') : Sound truth config chunks k' i' := by
  cases step with
  | outage refusesMigration refusesCommits =>
    refine ⟨fun running => ?_, sound.reached⟩
    have ready := sound.ready running
    exact ⟨ready.registered, ready.stored⟩
  | restart =>
    refine ⟨fun running => ?_, sound.reached⟩
    cases running
  | seed follows seeded =>
    refine ⟨fun running => ?_, fun earlier listed => ?_⟩
    · exact (Indexer.seed_running Journal.backend_mirrors follows seeded running).1
    · exact (Indexer.seed_ledger Journal.backend_mirrors seeded).reached
        (sound.reached earlier listed)
  | redeliver follows earlier listed taken =>
    obtain ⟨ready, kept, _⟩ := Indexer.process_ready Journal.backend_mirrors sound.ready taken
    exact ⟨ready, fun before found => kept _ (sound.reached before found)⟩
  | @deliver _ _ _ chunk acknowledged follows next taken =>
    obtain ⟨ready, kept, passed⟩ := Indexer.process_ready Journal.backend_mirrors sound.ready taken
    refine ⟨ready, ?_⟩
    intro m earlierChunk earlier listed
    by_cases last : m < k
    · exact kept _ (sound.reached last listed)
    · cases acknowledged with
      | false => exact absurd earlier last
      | true =>
        have same : m = k := by
          simp at earlier
          omega
        rw [same, next] at listed
        cases listed
        exact passed rfl

theorem delivered_sound {k : Nat} {i : Indexer Journal}
    (delivered : Delivered config truth initial chunks k i) : Sound truth config chunks k i := by
  induction delivered with
  | start journal holds =>
    refine ⟨fun running => ?_, fun earlier => ?_⟩
    · cases running
    · exact absurd earlier (Nat.not_lt_zero _)
  | step before step ih => exact step_sound ih step

theorem undisturbed_ready {k : Nat} {j : Indexer Store}
    (undisturbed : Undisturbed config truth initial chunks k j) :
    j.run.phase = .running ∧ Indexer.Ready id truth config j := by
  induction undisturbed with
  | seeded follows seeded =>
    have running : _ = Indexer.Phase.running := Indexer.seed_ok seeded
    exact ⟨running, (Indexer.seed_running Store.backend_mirrors follows seeded running).1⟩
  | accepted before follows next taken ih =>
    have running := Indexer.process_acknowledged taken
    exact ⟨running,
      (Indexer.process_ready Store.backend_mirrors (fun _ => ih.2) taken).1 running⟩

/-! ## The two runs side by side -/

/-- Once the checkpoint is raised to the start height the ledger is that of the undisturbed
indexer, and at work or with a chunk acknowledged it has been raised. -/
structure Abreast (config : IndexerConfig) (k : Nat) (i : Indexer Journal) (j : Indexer Store) :
    Prop where
  raised : i.world.store.store.ledger.raise config.startHeight = j.world.store.ledger
  level : i.run.phase = .running ∨ 0 < k → i.world.store.store.ledger = j.world.store.ledger

theorem Abreast.of_same {k : Nat} {i i' : Indexer Journal} {j : Indexer Store}
    (abreast : Abreast config k i j)
    (ledger : i'.world.store.store.ledger = i.world.store.store.ledger)
    (running : i'.run.phase = .running → i.run.phase = .running) : Abreast config k i' j where
  raised := by
    rw [ledger]
    exact abreast.raised
  level late := by
    rw [ledger]
    exact abreast.level (late.imp_left running)

/-- Seeding brings the indexer level with the undisturbed one, or leaves it as it was. -/
theorem abreast_seed {k : Nat} {i i' : Indexer Journal} {j : Indexer Store} {chain : Chain}
    {times : Indexer.SeedTimes} {result : Except (List String) Unit} (follows : chain.Follows truth)
    (abreast : Abreast config k i j)
    (seeded : Indexer.seed config chain Journal.backend times i = .ok (result, i')) :
    Abreast config k i' j := by
  have settled : j.world.store.ledger.raise config.startHeight = j.world.store.ledger := by
    rw [← abreast.raised, Ledger.raise_raise]
  rcases Indexer.seed_ledger Journal.backend_mirrors seeded with same | higher
  · refine ⟨by rw [same, abreast.raised], ?_⟩
    rintro (running | later)
    · rw [(Indexer.seed_running Journal.backend_mirrors follows seeded running).2]
      exact abreast.raised
    · rw [same]
      exact abreast.level (.inr later)
  · refine ⟨?_, fun _ => higher.trans abreast.raised⟩
    rw [higher, Ledger.raise_raise, abreast.raised]

/-- A chunk that both acknowledge does the same to both ledgers. -/
theorem abreast_accept {k : Nat} {i i' : Indexer Journal} {j j' : Indexer Store}
    {chain chain' : Chain} {chunk : Chunk} (follows : chain.Follows truth)
    (follows' : chain'.Follows truth) (abreast : Abreast config k i j)
    (ready : i.run.phase = .running → Indexer.Ready Journal.store truth config i)
    (readyOther : Indexer.Ready id truth config j)
    (taken : Indexer.process config chain Journal.backend chunk i = .ok (true, i'))
    (takenOther : Indexer.process config chain' Store.backend chunk j = .ok (true, j')) :
    Abreast config (k + 1) i' j' := by
  obtain ⟨running, cases⟩ := Indexer.process_accepted Journal.backend_mirrors taken
  obtain ⟨_, casesOther⟩ := Indexer.process_accepted Store.backend_mirrors takenOther
  have ready := ready running
  have level := abreast.level (.inl running)
  have stored := congrArg Ledger.checkpoint level
  -- the two hold one checkpoint, so the chunk is passed for both or built for both
  have checkpoint : i.run.checkpoint = j.run.checkpoint :=
    Option.some.inj (ready.stored.symm.trans (stored.trans readyOther.stored))
  rcases cases with ⟨passed, rfl⟩ | ⟨ahead, write, u, built, committed⟩
  · rcases casesOther with ⟨_, rfl⟩ | ⟨aheadOther, _⟩
    · exact ⟨abreast.raised, fun _ => level⟩
    · omega
  · rcases casesOther with ⟨passedOther, _⟩ | ⟨_, write', u', builtOther, committedOther⟩
    · omega
    · have ledger := Store.commit_ledger committed
      have ledgerOther := Store.commit_ledger committedOther
      rw [checkpoint] at built
      have agree := Indexer.buildChunk_agree follows follows' (ready.registry_eq readyOther)
        built builtOther
      -- the yields of the two writes may differ; the ledger has none
      have same : i'.world.store.store.ledger = j'.world.store.ledger := by
        calc i'.world.store.store.ledger
            = i.world.store.store.ledger.append write := ledger
          _ = j.world.store.ledger.append write := by rw [level]
          _ = j.world.store.ledger.append write.withoutAprs := rfl
          _ = j.world.store.ledger.append write'.withoutAprs := by rw [agree]
          _ = j'.world.store.ledger := ledgerOther.symm
      refine ⟨?_, fun _ => same⟩
      rw [ledger, Ledger.raise_append, abreast.raised, ← level]
      exact ledger.symm.trans same

/-- An acknowledged chunk that comes once more is not built again. -/
theorem abreast_redeliver {k m : Nat} {i i' : Indexer Journal} {j : Indexer Store}
    {chain : Chain} {chunk : Chunk} {acknowledged : Bool} (sound : Sound truth config chunks k i)
    (abreast : Abreast config k i j) (earlier : m < k) (listed : chunks[m]? = some chunk)
    (taken : Indexer.process config chain Journal.backend chunk i = .ok (acknowledged, i')) :
    Abreast config k i' j := by
  cases acknowledged with
  | false =>
    obtain ⟨same, running⟩ := Indexer.process_refused Journal.backend_mirrors taken
    exact abreast.of_same (congrArg Store.ledger same) running
  | true =>
    obtain ⟨running, passed⟩ := Indexer.process_accepted Journal.backend_mirrors taken
    obtain ⟨checkpoint, stored, bound⟩ := sound.reached earlier listed
    have same : checkpoint = i.run.checkpoint :=
      Option.some.inj (stored.symm.trans (sound.ready running).stored)
    rcases passed with ⟨_, rfl⟩ | ⟨ahead, _⟩
    · exact abreast
    · omega

theorem step_abreast {k k' : Nat} {i i' : Indexer Journal} (sound : Sound truth config chunks k i)
    (abreast : ∀ {j}, Undisturbed config truth initial chunks k j → Abreast config k i j)
    (step : Step config truth chunks k i k' i') {j' : Indexer Store}
    (undisturbed : Undisturbed config truth initial chunks k' j') : Abreast config k' i' j' := by
  cases step with
  | outage refusesMigration refusesCommits => exact (abreast undisturbed).of_same rfl id
  | restart => exact (abreast undisturbed).of_same rfl fun running => nomatch running
  | seed follows seeded => exact abreast_seed follows (abreast undisturbed) seeded
  | redeliver follows earlier listed taken =>
    exact abreast_redeliver sound (abreast undisturbed) earlier listed taken
  | @deliver _ _ _ chunk acknowledged follows next taken =>
    cases acknowledged with
    | false =>
      obtain ⟨same, running⟩ := Indexer.process_refused Journal.backend_mirrors taken
      exact (abreast undisturbed).of_same (congrArg Store.ledger same) running
    | true =>
      cases undisturbed with
      | accepted before follows' next' taken' =>
        rw [next] at next'
        cases next'
        exact abreast_accept follows follows' (abreast before) sound.ready
          (undisturbed_ready before).2 taken taken'

theorem delivered_abreast {k : Nat} {i : Indexer Journal}
    (delivered : Delivered config truth initial chunks k i) {j : Indexer Store}
    (undisturbed : Undisturbed config truth initial chunks k j) : Abreast config k i j := by
  induction delivered generalizing j with
  | start journal holds =>
    cases undisturbed with
    | seeded follows seeded =>
      have raised := (Indexer.seed_running Store.backend_mirrors follows seeded
        (Indexer.seed_ok seeded)).2
      refine ⟨?_, ?_⟩
      · subst holds
        exact raised.symm
      · rintro (running | later)
        · cases running
        · exact absurd later (Nat.lt_irrefl 0)
  | step before step ih => exact step_abreast (delivered_sound before) ih step undisturbed

/-- Exactly once: an indexer that a schedule leads to, once it is at work or has acknowledged a
chunk, has the ledger of every indexer that nothing disturbed; and at work it acknowledges
whatever it has acknowledged before, and does nothing. -/
theorem delivered_ledger {k : Nat} {i : Indexer Journal}
    (delivered : Delivered config truth initial chunks k i) :
    (∀ j, Undisturbed config truth initial chunks k j → i.run.phase = .running ∨ 0 < k →
      i.world.store.store.ledger = j.world.store.ledger) ∧
    (∀ m chunk chain, m < k → chunks[m]? = some chunk → i.run.phase = .running →
      Indexer.process config chain Journal.backend chunk i = .ok (true, i)) := by
  constructor
  · intro j undisturbed late
    exact (delivered_abreast delivered undisturbed).level late
  · intro m chunk chain earlier listed running
    have sound := delivered_sound delivered
    obtain ⟨checkpoint, stored, bound⟩ := sound.reached earlier listed
    have same : checkpoint = i.run.checkpoint :=
      Option.some.inj (stored.symm.trans (sound.ready running).stored)
    exact Indexer.process_passed running (by omega)

/-! A store that refuses the first commit of a stake, an indexer started anew, and the stake
delivered once more than is needed. -/

def quietChain : Chain where
  pools _ _ := .ok []
  factory _ := .ok []
  supply _ _ := .ok 0
  bond _ _ := .ok 0
  rewards _ _ := .ok []

def quietConfig : IndexerConfig where
  factories := []
  hub := "hub"
  usdt := "usdt"
  fees := { taxRate := .zero, taxCap := 0 }
  startHeight := 100
  maxChunkAttempts := 3

def stakeTx : Tx where
  hash := "A"
  height := 150
  timestamp := "2023-07-12T15:13:01Z"
  code := 0
  messages := [
    { typeUrl := executeTypeUrl
      sender := "alice"
      body := .obj [("bond", .obj [])]
      events := [⟨"wasm", [⟨contractKey, "staking"⟩, ⟨"action", "bond"⟩, ⟨"staker_addr", "alice"⟩,
        ⟨"asset_info", "lp"⟩, ⟨"amount", "5"⟩]⟩] }]

def stakeChunk : Chunk := ⟨[stakeTx], 200⟩

section

variable {σ : Type} (backend : Backend σ) (i : Indexer σ)

def quietSeeded : Indexer σ :=
  Indexer.after i (Indexer.seed quietConfig quietChain backend (0 : Int) i)

def stakeTaken : Indexer σ := Indexer.after i (Indexer.process quietConfig quietChain backend stakeChunk i)

variable {backend i}

theorem quiet_seeded
    (result : (Indexer.seed quietConfig quietChain backend (0 : Int) i).toOption.map (·.1.toOption)
      = some (some ())) :
    Indexer.seed quietConfig quietChain backend (0 : Int) i = .ok (.ok (), quietSeeded backend i) :=
  Indexer.seeded_after i result

theorem stake_taken {acknowledged : Bool}
    (result : (Indexer.process quietConfig quietChain backend stakeChunk i).toOption.map (·.1)
      = some acknowledged) :
    Indexer.process quietConfig quietChain backend stakeChunk i
      = .ok (acknowledged, stakeTaken backend i) :=
  Indexer.taken_after i result

end

def refusingStart : Indexer Journal := .start { refusesCommits := true }

/-- An indexer whose commits are refused. -/
def quietOutage : Indexer Journal := quietSeeded Journal.backend refusingStart

/-- A new indexer, once the store accepts commits again. -/
def secondStart : Indexer Journal :=
  .start { (stakeTaken Journal.backend quietOutage).world.store with
    refusesMigration := false, refusesCommits := false }

def quietSuccessor : Indexer Journal := quietSeeded Journal.backend secondStart

theorem stake_delivered : Delivered quietConfig quietChain {} [stakeChunk] 1
    (stakeTaken Journal.backend quietSuccessor) := by
  have follows := quietChain.follows_self
  have start : Delivered quietConfig quietChain {} [stakeChunk] 0 refusingStart := .start _ rfl
  have seeded : Delivered quietConfig quietChain {} [stakeChunk] 0 quietOutage :=
    start.step (.seed follows (quiet_seeded (by decide +kernel)))
  have refusing : Indexer.process quietConfig quietChain Journal.backend stakeChunk quietOutage =
      .ok (false, stakeTaken Journal.backend quietOutage) := stake_taken (by decide +kernel)
  have refused := seeded.step (.deliver follows rfl refusing)
  have reopened : Delivered quietConfig quietChain {} [stakeChunk] 0 secondStart :=
    (refused.step .restart).step (.outage false false)
  have successor : Delivered quietConfig quietChain {} [stakeChunk] 0 quietSuccessor :=
    reopened.step (.seed follows (quiet_seeded (by decide +kernel)))
  have accepting : Indexer.process quietConfig quietChain Journal.backend stakeChunk
      quietSuccessor = .ok (true, stakeTaken Journal.backend quietSuccessor) :=
    stake_taken (by decide +kernel)
  exact successor.step (.deliver follows rfl accepting)

theorem stake_undisturbed : Undisturbed quietConfig quietChain {} [stakeChunk] 1
    (stakeTaken Store.backend (quietSeeded Store.backend (.start {}))) := by
  have follows := quietChain.follows_self
  have seeding : Indexer.seed quietConfig quietChain Store.backend (0 : Int) (.start {}) =
      .ok (.ok (), quietSeeded Store.backend (.start {})) := quiet_seeded (by decide +kernel)
  have seeded : Undisturbed quietConfig quietChain {} [stakeChunk] 0 _ := .seeded follows seeding
  exact seeded.accepted follows rfl (stake_taken (by decide +kernel))

theorem delivered_ledger_stake :
    (stakeTaken Journal.backend quietSuccessor).world.store.store.stakes.map (·.amount) = [5] ∧
    (stakeTaken Journal.backend quietSuccessor).world.store.store.ledger =
      (stakeTaken Store.backend (quietSeeded Store.backend (.start {}))).world.store.ledger ∧
    Indexer.process quietConfig quietChain Journal.backend stakeChunk
        (stakeTaken Journal.backend quietSuccessor) =
      .ok (true, stakeTaken Journal.backend quietSuccessor) := by
  obtain ⟨ledger, again⟩ := delivered_ledger stake_delivered
  refine ⟨by decide +kernel, ledger _ stake_undisturbed (.inr Nat.one_pos), ?_⟩
  exact again 0 stakeChunk quietChain Nat.one_pos rfl (by decide +kernel)

end PoolIndexer.Delivery
