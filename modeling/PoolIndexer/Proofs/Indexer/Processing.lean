import PoolIndexer.Proofs.Indexer.Seeding

/-! What one step of an indexer comes to: seeding it, and giving it a chunk. -/
namespace PoolIndexer

variable {σ τ : Type} {view : σ → Store}

namespace Indexer

/-- What an indexer at work relies on: the pairs registered are those listed, and the checkpoint
it holds is the one that is stored. -/
structure Ready (view : σ → Store) (truth : Chain) (config : IndexerConfig) (i : Indexer σ) :
    Prop where
  registered : ∃ listed, listing truth config.factories = .ok listed ∧
    i.world.registry = registryOf listed
  stored : (view i.world.store).checkpoint = some i.run.checkpoint

theorem Ready.registry_eq {truth : Chain} {config : IndexerConfig} {seen : τ → Store}
    {i : Indexer σ} {j : Indexer τ} (ready : Ready view truth config i)
    (other : Ready seen truth config j) : i.world.registry = j.world.registry := by
  obtain ⟨listed, lists, registry⟩ := ready.registered
  obtain ⟨listed', lists', registry'⟩ := other.registered
  have same : listed = listed' := Except.ok.inj (lists.symm.trans lists')
  rw [registry, registry', same]

/-! ## Seeding -/

theorem seed_cases {config : IndexerConfig} {chain : Chain} {backend : Backend σ}
    {times : SeedTimes} {i i' : Indexer σ} {result : Except (List String) Unit}
    (seeded : seed config chain backend times i = .ok (result, i')) :
    (∃ checkpoint world, seedStorage config chain backend times i.world = (.ok checkpoint, world) ∧
      result = .ok () ∧
      i' = { run := { i.run with checkpoint, phase := .running }, world }) ∨
    (∃ texts world,
      seedStorage config chain backend times i.world = (.error (.failed texts), world) ∧
      result = .error ("Failed to seed sync worker" :: texts) ∧
      i' = { run := { i.run with phase := .failed, halted := true }, world }) := by
  unfold seed at seeded
  split at seeded
  · rename_i checkpoint world stored
    cases seeded
    exact .inl ⟨checkpoint, world, stored, rfl, rfl⟩
  · rename_i texts world failed
    cases seeded
    exact .inr ⟨texts, world, failed, rfl, rfl⟩
  · cases seeded

theorem seed_ok {config : IndexerConfig} {chain : Chain} {backend : Backend σ} {times : SeedTimes}
    {i i' : Indexer σ} (seeded : seed config chain backend times i = .ok (.ok (), i')) :
    i'.run.phase = .running := by
  rcases seed_cases seeded with ⟨_, _, _, _, rfl⟩ | ⟨_, _, _, failed, _⟩
  · rfl
  · cases failed

section

variable {backend : Backend σ} (mirrors : backend.Mirrors view)
include mirrors

/-- Whatever comes of it, seeding does no more to the ledger than raise its checkpoint. -/
theorem seed_ledger {config : IndexerConfig} {chain : Chain} {times : SeedTimes} {i i' : Indexer σ}
    {result : Except (List String) Unit}
    (seeded : seed config chain backend times i = .ok (result, i')) :
    World.Raised view config.startHeight i.world i'.world := by
  have raised := seedStorage_raised mirrors config chain times i.world
  rcases seed_cases seeded with ⟨checkpoint, world, run, -, rfl⟩ | ⟨texts, world, run, -, rfl⟩
  · simpa only [run] using raised
  · simpa only [run] using raised

/-- An indexer that is at work after seeding is ready, and the checkpoint has been raised. -/
theorem seed_running {config : IndexerConfig} {truth chain : Chain} {times : SeedTimes}
    (follows : chain.Follows truth) {i i' : Indexer σ} {result : Except (List String) Unit}
    (seeded : seed config chain backend times i = .ok (result, i'))
    (running : i'.run.phase = .running) :
    Ready view truth config i' ∧
      (view i'.world.store).ledger = (view i.world.store).ledger.raise config.startHeight := by
  rcases seed_cases seeded with ⟨checkpoint, world, run, -, rfl⟩ | ⟨texts, world, -, -, rfl⟩
  · obtain ⟨ledger, stored, registered⟩ := seedStorage_ok mirrors follows run
    exact ⟨⟨registered, stored⟩, ledger⟩
  · cases running

end

/-! ## Chunks -/

/-- A chunk is turned away by an indexer that is not at work and acknowledged if it has been
passed; any other is committed and acknowledged, or refused and counted. -/
theorem process_cases {config : IndexerConfig} {chain : Chain} {backend : Backend σ}
    {chunk : Chunk} {i i' : Indexer σ} {acknowledged : Bool}
    (taken : process config chain backend chunk i = .ok (acknowledged, i')) :
    (i.run.phase ≠ .running ∧ acknowledged = false ∧ i' = i) ∨
    (i.run.phase = .running ∧ chunk.newHeight ≤ i.run.checkpoint ∧ acknowledged = true ∧ i' = i) ∨
    (i.run.phase = .running ∧ i.run.checkpoint < chunk.newHeight ∧ acknowledged = true ∧
      ∃ world, indexChunk config chain backend chunk i.run.checkpoint i.world = (.ok (), world) ∧
        i' = { run := { i.run with checkpoint := chunk.newHeight, streak := none }, world }) ∨
    (i.run.phase = .running ∧ i.run.checkpoint < chunk.newHeight ∧ acknowledged = false ∧
      ∃ texts world, indexChunk config chain backend chunk i.run.checkpoint i.world =
          (.error (.failed texts), world) ∧
        i' = { run := i.run.fail config.maxChunkAttempts chunk.newHeight, world }) := by
  unfold process at taken
  split at taken
  · rename_i idle
    cases taken
    exact .inl ⟨idle, rfl, rfl⟩
  · rename_i idle
    have running : i.run.phase = .running := Decidable.not_not.mp idle
    refine .inr ?_
    split at taken
    · rename_i passed
      cases taken
      exact .inl ⟨running, passed, rfl, rfl⟩
    · rename_i ahead
      have ahead : i.run.checkpoint < chunk.newHeight := by omega
      refine .inr ?_
      split at taken
      · rename_i world indexed
        cases taken
        exact .inl ⟨running, ahead, rfl, world, indexed, rfl⟩
      · rename_i texts world failed
        cases taken
        exact .inr ⟨running, ahead, rfl, texts, world, failed, rfl⟩
      · cases taken

/-- A chunk that the indexer has passed is acknowledged, and nothing at all is done. -/
theorem process_passed {config : IndexerConfig} {chain : Chain} {backend : Backend σ}
    {chunk : Chunk} {i : Indexer σ} (running : i.run.phase = .running)
    (passed : chunk.newHeight ≤ i.run.checkpoint) :
    process config chain backend chunk i = .ok (true, i) := by
  simp [process, running, passed]

/-- Only an indexer at work acknowledges, and it stays at work. -/
theorem process_acknowledged {config : IndexerConfig} {chain : Chain} {backend : Backend σ}
    {chunk : Chunk} {i i' : Indexer σ}
    (taken : process config chain backend chunk i = .ok (true, i')) :
    i'.run.phase = .running := by
  rcases process_cases taken with ⟨_, turnedAway, _⟩ | ⟨running, _, _, rfl⟩ |
    ⟨running, _, _, _, _, rfl⟩ | ⟨_, _, refused, _⟩
  · cases turnedAway
  · exact running
  · exact running
  · cases refused

theorem fail_checkpoint (run : RunState) (maxAttempts height : Nat) :
    (run.fail maxAttempts height).checkpoint = run.checkpoint := by
  simp only [RunState.fail, apply_ite RunState.checkpoint, ite_self]

section

variable {backend : Backend σ} (mirrors : backend.Mirrors view)
include mirrors

/-- A chunk that is indexed is built, and what is built is committed. -/
theorem indexChunk_ok {config : IndexerConfig} {chain : Chain} {chunk : Chunk} {checkpoint : Nat}
    {w v : World σ}
    (indexed : indexChunk config chain backend chunk checkpoint w = (.ok (), v)) :
    ∃ write u, buildChunk config chain chunk checkpoint w = (.ok write, u) ∧
      (view w.store).commit write = .ok (view v.store) ∧ v.registry = w.registry := by
  obtain ⟨write, u, built, committing⟩ := Task.bind_ok.mp indexed
  obtain ⟨store, committed, rfl⟩ := Task.perform_ok.mp committing
  have unchanged := buildChunk_unchanged config chain chunk checkpoint w
  rw [built] at unchanged
  refine ⟨write, u, built, ?_, unchanged.registry⟩
  rw [← unchanged.store]
  exact Store.backend_commit ((mirrors.commit write).ok committed)

/-- A chunk that fails leaves the store and the registered pairs as they were. -/
theorem indexChunk_error {config : IndexerConfig} {chain : Chain} {chunk : Chunk}
    {checkpoint : Nat} {w v : World σ} {fault : Fault}
    (failed : indexChunk config chain backend chunk checkpoint w = (.error fault, v)) :
    view v.store = view w.store ∧ v.registry = w.registry := by
  unfold indexChunk at failed
  rw [Task.bind_apply] at failed
  have unchanged := buildChunk_unchanged config chain chunk checkpoint w
  split at failed
  · rename_i write u built
    rw [built] at unchanged
    unfold Task.perform at failed
    split at failed
    · cases failed
    · rename_i refused
      cases failed
      refine ⟨?_, unchanged.registry⟩
      rw [← unchanged.store]
      exact (mirrors.commit write).error refused
  · rename_i fault u built
    rw [built] at unchanged
    cases failed
    exact ⟨congrArg view unchanged.store, unchanged.registry⟩

/-- A chunk that is not acknowledged leaves the store as it was. -/
theorem process_refused {config : IndexerConfig} {chain : Chain} {chunk : Chunk}
    {i i' : Indexer σ} (taken : process config chain backend chunk i = .ok (false, i')) :
    view i'.world.store = view i.world.store ∧
      (i'.run.phase = .running → i.run.phase = .running) := by
  rcases process_cases taken with ⟨_, _, rfl⟩ | ⟨_, _, passed, _⟩ |
    ⟨_, _, accepted, _⟩ | ⟨running, _, _, texts, world, failed, rfl⟩
  · exact ⟨rfl, id⟩
  · cases passed
  · cases accepted
  · exact ⟨(indexChunk_error mirrors failed).1, fun _ => running⟩

/-- A chunk that is acknowledged had been passed, or else it is built and committed. -/
theorem process_accepted {config : IndexerConfig} {chain : Chain} {chunk : Chunk}
    {i i' : Indexer σ} (taken : process config chain backend chunk i = .ok (true, i')) :
    i.run.phase = .running ∧
      ((chunk.newHeight ≤ i.run.checkpoint ∧ i' = i) ∨
        (i.run.checkpoint < chunk.newHeight ∧ ∃ write u,
          buildChunk config chain chunk i.run.checkpoint i.world = (.ok write, u) ∧
          (view i.world.store).commit write = .ok (view i'.world.store))) := by
  rcases process_cases taken with ⟨_, turnedAway, _⟩ | ⟨running, passed, _, rfl⟩ |
    ⟨running, ahead, _, world, indexed, rfl⟩ | ⟨_, _, refused, _⟩
  · cases turnedAway
  · exact ⟨running, .inl ⟨passed, rfl⟩⟩
  · obtain ⟨write, u, built, committed, _⟩ := indexChunk_ok mirrors indexed
    exact ⟨running, .inr ⟨ahead, write, u, built, committed⟩⟩
  · cases refused

/-- What a chunk does to an indexer that is ready if it is at work: it stays so, what the
checkpoint has reached stays reached, and so is the chunk if it is acknowledged. -/
theorem process_ready {config : IndexerConfig} {truth chain : Chain} {chunk : Chunk}
    {i i' : Indexer σ} {acknowledged : Bool}
    (ready : i.run.phase = .running → Ready view truth config i)
    (taken : process config chain backend chunk i = .ok (acknowledged, i')) :
    (i'.run.phase = .running → Ready view truth config i') ∧
      (∀ height, (view i.world.store).ledger.Reached height →
        (view i'.world.store).ledger.Reached height) ∧
      (acknowledged = true → (view i'.world.store).ledger.Reached chunk.newHeight) := by
  rcases process_cases taken with ⟨_, rfl, rfl⟩ | ⟨running, passed, rfl, rfl⟩ |
    ⟨running, ahead, rfl, world, indexed, rfl⟩ | ⟨running, _, rfl, texts, world, failed, rfl⟩
  · exact ⟨ready, fun _ reached => reached, by simp⟩
  · exact ⟨ready, fun _ reached => reached, fun _ => ⟨_, (ready running).stored, passed⟩⟩
  · obtain ⟨⟨listed, lists, before⟩, stored⟩ := ready running
    obtain ⟨write, u, built, committed, registry⟩ := indexChunk_ok mirrors indexed
    have ledger := Store.commit_ledger committed
    have height : write.newHeight = chunk.newHeight := buildChunk_height built
    have raised : (view world.store).checkpoint = some chunk.newHeight := by
      have appended := congrArg Ledger.checkpoint ledger
      simp only [Store.ledger, Ledger.append, stored, height, Option.getD_some] at appended
      rw [appended, Nat.max_eq_right (Nat.le_of_lt ahead)]
    refine ⟨fun _ => ⟨⟨listed, lists, registry.trans before⟩, raised⟩, ?_,
      fun _ => ⟨_, raised, Nat.le_refl _⟩⟩
    intro height reached
    rw [ledger]
    exact reached.append write
  · obtain ⟨store, registry⟩ := indexChunk_error mirrors failed
    refine ⟨fun _ => ?_, fun _ reached => store ▸ reached, by simp⟩
    obtain ⟨⟨listed, lists, before⟩, stored⟩ := ready running
    refine ⟨⟨listed, lists, registry.trans before⟩, ?_⟩
    rw [fail_checkpoint, ← stored]
    exact congrArg Store.checkpoint store

end

/-- The indexer after a step that stops at no fault. -/
def after {α : Type} (i : Indexer σ) : Except ArithmeticError (α × Indexer σ) → Indexer σ
  | .ok (_, i') => i'
  | .error _ => i

theorem taken_after {α : Type} (i : Indexer σ)
    {taken : Except ArithmeticError (α × Indexer σ)} {a : α}
    (result : taken.toOption.map (·.1) = some a) : taken = .ok (a, after i taken) := by
  cases taken with
  | error e => simp [Except.toOption] at result
  | ok outcome =>
    have same : outcome.1 = a := by simpa [Except.toOption] using result
    rw [← same]
    rfl

theorem seeded_after (i : Indexer σ)
    {seeded : Except ArithmeticError (Except (List String) Unit × Indexer σ)}
    (result : seeded.toOption.map (·.1.toOption) = some (some ())) :
    seeded = .ok (.ok (), after i seeded) := by
  refine taken_after i ?_
  rcases seeded with e | ⟨e | _, i'⟩
  · simp [Except.toOption] at result
  · simp [Except.toOption] at result
  · rfl

theorem stopped_after (i : Indexer σ)
    {seeded : Except ArithmeticError (Except (List String) Unit × Indexer σ)}
    (result : seeded.toOption.map (·.1.toOption) = some none) :
    ∃ texts, seeded = .ok (.error texts, after i seeded) := by
  rcases seeded with e | ⟨texts | _, i'⟩
  · simp [Except.toOption] at result
  · exact ⟨texts, rfl⟩
  · simp [Except.toOption] at result

end Indexer
end PoolIndexer
