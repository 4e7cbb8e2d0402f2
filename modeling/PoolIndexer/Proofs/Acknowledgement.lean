import Mathlib.Logic.Relation
import PoolIndexer.Proofs.Delivery

/-! What the answer to a chunk says of the store. A chunk that is acknowledged lies at or below the
stored checkpoint, one that is not has left no trace, and the stored checkpoint never falls,
whichever indexers work on the store one after the other. -/
namespace PoolIndexer.Acknowledgement

variable {σ : Type} {view : σ → Store} {backend : Backend σ}

/-- An indexer, and the configuration it works by. -/
structure Worker (σ : Type) where
  config : IndexerConfig
  indexer : Indexer σ

namespace Worker

/-- A new worker on a store. -/
def start (config : IndexerConfig) (store : σ) : Worker σ := ⟨config, .start store⟩

/-- The store in memory that a worker works on. -/
def stored (view : σ → Store) (w : Worker σ) : Store := view w.indexer.world.store

end Worker

/-- What can happen: a worker with settings of its own takes over the store, the backend changes
outside of its store, or the worker is called. -/
inductive Step (view : σ → Store) (backend : Backend σ) : Worker σ → Worker σ → Prop
  | takeover {w : Worker σ} (config : IndexerConfig) :
      Step view backend w (.start config w.indexer.world.store)
  | meanwhile {w : Worker σ} (state : σ) (same : view state = w.stored view) :
      Step view backend w ⟨w.config, { w.indexer with world.store := state }⟩
  | seed {w : Worker σ} {i' : Indexer σ} {chain : Chain} {times : Indexer.SeedTimes}
      {result : Except (List String) Unit}
      (seeded : Indexer.seed w.config chain backend times w.indexer = .ok (result, i')) :
      Step view backend w ⟨w.config, i'⟩
  | process {w : Worker σ} {i' : Indexer σ} {chain : Chain} {chunk : Chunk} {acknowledged : Bool}
      (taken : Indexer.process w.config chain backend chunk w.indexer = .ok (acknowledged, i')) :
      Step view backend w ⟨w.config, i'⟩

/-- The workers that some history leads to. -/
def Reachable (view : σ → Store) (backend : Backend σ) (w : Worker σ) : Prop :=
  ∃ config store, Relation.ReflTransGen (Step view backend) (.start config store) w

/-- At work, a worker is ready by what some chain lists. -/
def Sound (view : σ → Store) (w : Worker σ) : Prop :=
  w.indexer.run.phase = .running → ∃ truth, Indexer.Ready view truth w.config w.indexer

section

variable (mirrors : backend.Mirrors view) {w w' : Worker σ}
include mirrors

theorem process_sound {chain : Chain} {chunk : Chunk} {acknowledged : Bool} {i' : Indexer σ}
    (sound : Sound view w)
    (taken : Indexer.process w.config chain backend chunk w.indexer = .ok (acknowledged, i')) :
    Sound view ⟨w.config, i'⟩ ∧
      (∀ height, (w.stored view).ledger.Reached height →
        (view i'.world.store).ledger.Reached height) ∧
      (acknowledged = true → (view i'.world.store).ledger.Reached chunk.newHeight) := by
  by_cases running : w.indexer.run.phase = .running
  · obtain ⟨truth, ready⟩ := sound running
    obtain ⟨readyAfter, kept, passed⟩ := Indexer.process_ready mirrors (fun _ => ready) taken
    exact ⟨fun still => ⟨truth, readyAfter still⟩, kept, passed⟩
  · rcases Indexer.process_cases taken with ⟨_, rfl, rfl⟩ | ⟨work, _⟩ | ⟨work, _⟩ | ⟨work, _⟩
    · exact ⟨sound, fun _ reached => reached, by simp⟩
    · exact absurd work running
    · exact absurd work running
    · exact absurd work running

theorem step_sound (sound : Sound view w) (step : Step view backend w w') : Sound view w' := by
  cases step with
  | takeover config =>
    intro running
    cases running
  | meanwhile state same =>
    intro running
    obtain ⟨truth, ready⟩ := sound running
    exact ⟨truth, ready.registered, (congrArg Store.checkpoint same).trans ready.stored⟩
  | @seed _ chain _ _ seeded =>
    intro running
    exact ⟨chain, (Indexer.seed_running mirrors chain.follows_self seeded running).1⟩
  | process taken => exact (process_sound mirrors sound taken).1

/-- What the stored checkpoint has reached stays reached. -/
theorem step_reached (sound : Sound view w) (step : Step view backend w w') {height : Nat}
    (reached : (w.stored view).ledger.Reached height) :
    (w'.stored view).ledger.Reached height := by
  cases step with
  | takeover config => exact reached
  | meanwhile state same =>
    unfold Worker.stored at reached ⊢
    rwa [same]
  | seed seeded => exact (Indexer.seed_ledger mirrors seeded).reached reached
  | process taken => exact (process_sound mirrors sound taken).2.1 height reached

theorem leads_sound (leads : Relation.ReflTransGen (Step view backend) w w')
    (sound : Sound view w) : Sound view w' := by
  induction leads with
  | refl => exact sound
  | tail _ step ih => exact step_sound mirrors ih step

theorem leads_reached (leads : Relation.ReflTransGen (Step view backend) w w')
    (sound : Sound view w) {height : Nat} (reached : (w.stored view).ledger.Reached height) :
    (w'.stored view).ledger.Reached height := by
  induction leads with
  | refl => exact reached
  | tail before step ih => exact step_reached mirrors (leads_sound mirrors before sound) step ih

theorem reachable_sound (reachable : Reachable view backend w) : Sound view w := by
  obtain ⟨config, store, leads⟩ := reachable
  refine leads_sound mirrors leads fun running => ?_
  cases running

omit mirrors in
/-- A chunk that is not acknowledged leaves the checkpoint that the indexer holds as it was. -/
theorem refused_checkpoint {config : IndexerConfig} {chain : Chain} {chunk : Chunk}
    {i i' : Indexer σ}
    (taken : Indexer.process config chain backend chunk i = .ok (false, i')) :
    i'.run.checkpoint = i.run.checkpoint := by
  rcases Indexer.process_cases taken with ⟨_, _, rfl⟩ | ⟨_, _, passed, _⟩ |
    ⟨_, _, accepted, _⟩ | ⟨_, _, _, _, _, _, rfl⟩
  · rfl
  · cases passed
  · cases accepted
  · exact Indexer.fail_checkpoint _ _ _

/-- At work the checkpoint that is held is the stored one. An acknowledged chunk lies at or below
the stored checkpoint; one that is not acknowledged has changed neither the store nor the
checkpoint that is held. And whatever happens, the stored checkpoint does not fall. -/
theorem acknowledgement_sound (reachable : Reachable view backend w) :
    (w.indexer.run.phase = .running →
      (w.stored view).checkpoint = some w.indexer.run.checkpoint) ∧
    (∀ chain chunk i', Indexer.process w.config chain backend chunk w.indexer = .ok (true, i') →
      ∃ checkpoint, (view i'.world.store).checkpoint = some checkpoint ∧
        chunk.newHeight ≤ checkpoint) ∧
    (∀ chain chunk i', Indexer.process w.config chain backend chunk w.indexer = .ok (false, i') →
      view i'.world.store = w.stored view ∧
        i'.run.checkpoint = w.indexer.run.checkpoint) ∧
    (∀ w' checkpoint, Relation.ReflTransGen (Step view backend) w w' →
      (w.stored view).checkpoint = some checkpoint →
      ∃ checkpoint', (w'.stored view).checkpoint = some checkpoint' ∧
        checkpoint ≤ checkpoint') := by
  have sound := reachable_sound mirrors reachable
  refine ⟨fun running => ?_, fun chain chunk i' taken => ?_, fun chain chunk i' taken => ?_,
    fun w' checkpoint leads stored => ?_⟩
  · obtain ⟨truth, ready⟩ := sound running
    exact ready.stored
  · exact (process_sound mirrors sound taken).2.2 rfl
  · exact ⟨(Indexer.process_refused mirrors taken).1, refused_checkpoint taken⟩
  · exact leads_reached mirrors leads sound ⟨checkpoint, stored, Nat.le_refl _⟩

end

/-! A stake that is refused, and accepted once the store takes commits again and another worker
has taken over. -/

def refusedWorker : Worker Journal := ⟨Delivery.quietConfig, Delivery.quietOutage⟩

def successor : Worker Journal := ⟨Delivery.quietConfig, Delivery.quietSuccessor⟩

theorem refusedWorker_reachable : Reachable Journal.store Journal.backend refusedWorker :=
  ⟨Delivery.quietConfig, { refusesCommits := true },
    .single (.seed (Delivery.quiet_seeded (by decide +kernel)))⟩

theorem refused_taken : Indexer.process Delivery.quietConfig Delivery.quietChain Journal.backend
    Delivery.stakeChunk Delivery.quietOutage =
      .ok (false, Delivery.stakeTaken Journal.backend Delivery.quietOutage) :=
  Delivery.stake_taken (by decide +kernel)

theorem successor_taken : Indexer.process Delivery.quietConfig Delivery.quietChain Journal.backend
    Delivery.stakeChunk Delivery.quietSuccessor =
      .ok (true, Delivery.stakeTaken Journal.backend Delivery.quietSuccessor) :=
  Delivery.stake_taken (by decide +kernel)

theorem leads_successor :
    Relation.ReflTransGen (Step Journal.store Journal.backend) refusedWorker successor := by
  have refused : Step Journal.store Journal.backend refusedWorker
      ⟨Delivery.quietConfig, Delivery.stakeTaken Journal.backend Delivery.quietOutage⟩ :=
    .process refused_taken
  have reopened := Relation.ReflTransGen.tail (.single refused) (.meanwhile
    { (Delivery.stakeTaken Journal.backend Delivery.quietOutage).world.store with
      refusesMigration := false, refusesCommits := false } rfl)
  have taken := reopened.tail (.takeover Delivery.quietConfig)
  exact taken.tail (.seed (Delivery.quiet_seeded (by decide +kernel)))

theorem acknowledgement_sound_stake :
    (Delivery.stakeTaken Journal.backend Delivery.quietOutage).world.store.store =
        Delivery.quietOutage.world.store.store ∧
      Delivery.quietOutage.world.store.store.checkpoint = some 100 ∧
      (∃ checkpoint, Delivery.quietSuccessor.world.store.store.checkpoint = some checkpoint ∧
        100 ≤ checkpoint) ∧
      ∃ checkpoint, (Delivery.stakeTaken Journal.backend
          Delivery.quietSuccessor).world.store.store.checkpoint = some checkpoint ∧
        200 ≤ checkpoint := by
  obtain ⟨config, journal, before⟩ := refusedWorker_reachable
  have later : Reachable Journal.store Journal.backend successor :=
    ⟨config, journal, before.trans leads_successor⟩
  obtain ⟨held, _, refused, rises⟩ :=
    acknowledgement_sound Journal.backend_mirrors refusedWorker_reachable
  obtain ⟨_, accepted, _⟩ := acknowledgement_sound Journal.backend_mirrors later
  have stored := held (by decide +kernel)
  have checkpoint : refusedWorker.indexer.run.checkpoint = 100 := by decide +kernel
  rw [checkpoint] at stored
  exact ⟨(refused _ _ _ refused_taken).1, stored, rises _ _ leads_successor stored,
    accepted _ _ _ successor_taken⟩

end PoolIndexer.Acknowledgement
