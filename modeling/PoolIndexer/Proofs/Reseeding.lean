import Mathlib.Data.List.Chain
import PoolIndexer.Proofs.Delivery

/-! Whether an indexer that has failed stays failed. It does, and it is halted exactly as long as
it has failed, unless it is seeded once more and that succeeds: then it is back at work, and still
halted. -/
namespace PoolIndexer.Reseeding

variable {σ : Type} {config : IndexerConfig} {i i' : Indexer σ}

/-- A call of an indexer, whatever comes of it; the chain and the backend may be others at every
call. Between calls anything may happen to the store. -/
inductive Step (config : IndexerConfig) : Indexer σ → Indexer σ → Prop
  | seed {backend : Backend σ} {chain : Chain} {times : Indexer.SeedTimes} {i i' : Indexer σ}
      {result : Except (List String) Unit}
      (seeded : Indexer.seed config chain backend times i = .ok (result, i')) : Step config i i'
  | process {backend : Backend σ} {chain : Chain} {chunk : Chunk} {i i' : Indexer σ}
      {acknowledged : Bool}
      (taken : Indexer.process config chain backend chunk i = .ok (acknowledged, i')) :
      Step config i i'
  | meanwhile (i : Indexer σ) (store : σ) : Step config i { i with world.store := store }

/-- The states that a new indexer goes through, one for every call. -/
structure Lived (config : IndexerConfig) (life : List (Indexer σ)) : Prop where
  born : ∃ store later, life = Indexer.start store :: later
  steps : life.IsChain (Step config)

/-- A failed indexer is seeded, and that succeeds. -/
def Revives (config : IndexerConfig) (i i' : Indexer σ) : Prop :=
  i.run.phase = .failed ∧ ∃ chain backend times,
    Indexer.seed config chain backend times i = .ok (.ok (), i')

/-! ## One call -/

theorem fail_halts (run : Indexer.RunState) (maxAttempts height : Nat) :
    ((run.fail maxAttempts height).phase = .failed ∧
        (run.fail maxAttempts height).halted = true) ∨
      ((run.fail maxAttempts height).phase = run.phase ∧
        (run.fail maxAttempts height).halted = run.halted) := by
  obtain ⟨attempts, counted⟩ : ∃ attempts, run.fail maxAttempts height =
      if max maxAttempts 1 ≤ attempts then
        { run with streak := some (height, attempts), phase := .failed, halted := true }
      else { run with streak := some (height, attempts) } := ⟨_, rfl⟩
  by_cases reached : max maxAttempts 1 ≤ attempts
  · simp [counted, reached]
  · simp [counted, reached]

/-- What a call does to the state of an indexer. It is left alone, or it fails and halts, or the
indexer is put to work by a seeding, which does not see whether it has halted. -/
theorem step_cases (step : Step config i i') :
    (i'.run.phase = i.run.phase ∧ i'.run.halted = i.run.halted) ∨
    (i'.run.phase = .failed ∧ i'.run.halted = true) ∨
    (i'.run.phase = .running ∧ i'.run.halted = i.run.halted ∧ ∃ chain backend times,
      Indexer.seed config chain backend times i = .ok (.ok (), i')) := by
  cases step with
  | @seed backend chain times _ _ _ seeded =>
    rcases Indexer.seed_cases seeded with ⟨_, _, _, rfl, rfl⟩ | ⟨_, _, _, _, rfl⟩
    · exact .inr (.inr ⟨rfl, rfl, chain, backend, times, seeded⟩)
    · exact .inr (.inl ⟨rfl, rfl⟩)
  | process taken =>
    rcases Indexer.process_cases taken with ⟨_, _, rfl⟩ | ⟨_, _, _, rfl⟩ |
      ⟨_, _, _, _, _, rfl⟩ | ⟨_, _, _, _, _, _, rfl⟩
    · exact .inl ⟨rfl, rfl⟩
    · exact .inl ⟨rfl, rfl⟩
    · exact .inl ⟨rfl, rfl⟩
    · rcases fail_halts i.run config.maxChunkAttempts _ with failed | same
      · exact .inr (.inl failed)
      · exact .inl same
  | meanwhile => exact .inl ⟨rfl, rfl⟩

/-- Nothing but a seeding that succeeds leads out of failure. -/
theorem step_failed (step : Step config i i') (failed : i.run.phase = .failed) :
    i'.run.phase = .failed ∨ Revives config i i' := by
  rcases step_cases step with ⟨same, _⟩ | ⟨fails, _⟩ | ⟨_, _, seeded⟩
  · exact .inl (same.trans failed)
  · exact .inl fails
  · exact .inr ⟨failed, seeded⟩

/-- What has halted stays halted. -/
theorem step_halted (step : Step config i i') (halted : i.run.halted = true) :
    i'.run.halted = true := by
  rcases step_cases step with ⟨_, same⟩ | ⟨_, halts⟩ | ⟨_, same, _⟩
  · exact same.trans halted
  · exact halts
  · exact same.trans halted

theorem step_failed_halted (halts : i.run.phase = .failed → i.run.halted = true)
    (step : Step config i i') (failed : i'.run.phase = .failed) : i'.run.halted = true := by
  rcases step_cases step with ⟨phase, same⟩ | ⟨_, halted⟩ | ⟨running, _⟩
  · rw [same]
    apply halts
    rw [← phase, failed]
  · exact halted
  · simp [running] at failed

/-- A call that does not revive keeps it that failed and halted are one. -/
theorem step_agrees (step : Step config i i') (lasting : ¬ Revives config i i')
    (agrees : i.run.halted = true ↔ i.run.phase = .failed) :
    i'.run.halted = true ↔ i'.run.phase = .failed := by
  refine ⟨fun halted => ?_, step_failed_halted agrees.mpr step⟩
  rcases step_cases step with ⟨phase, same⟩ | ⟨failed, _⟩ | ⟨_, same, seeded⟩
  · rw [phase]
    apply agrees.mp
    rw [← same, halted]
  · exact failed
  · -- the indexer had halted before it was seeded, so it had failed, and was revived
    have before : i.run.phase = .failed := agrees.mp (same ▸ halted)
    exact absurd ⟨before, seeded⟩ lasting

theorem revives_halted (agrees : i.run.phase = .failed → i.run.halted = true)
    (revives : Revives config i i') : i'.run.phase = .running ∧ i'.run.halted = true := by
  obtain ⟨failed, chain, backend, times, seeded⟩ := revives
  exact ⟨Indexer.seed_ok seeded, step_halted (.seed seeded) (agrees failed)⟩

/-! ## A life -/

instance (P : Indexer σ → Prop) :
    Trans (fun i j : Indexer σ => P i → P j) (fun i j => P i → P j) (fun i j => P i → P j) where
  trans first second := second ∘ first

variable {life : List (Indexer σ)}

/-- What holds of a new indexer, and is carried on from one state to the next, holds throughout. -/
theorem Lived.all (lived : Lived config life) {R : Indexer σ → Indexer σ → Prop}
    (steps : life.IsChain R) {P : Indexer σ → Prop} (fresh : ∀ store, P (Indexer.start store))
    (carries : ∀ i j, R i j → P i → P j) : ∀ i ∈ life, P i := by
  obtain ⟨store, later, rfl⟩ := lived.born
  exact steps.induction P _ (fun i j => carries i j) fun _ => fresh store

theorem lived_halted (lived : Lived config life) :
    life.Pairwise fun i j => i.run.halted = true → j.run.halted = true :=
  (lived.steps.imp fun _ _ step => step_halted step).pairwise

theorem lived_failed_halted (lived : Lived config life) :
    ∀ i ∈ life, i.run.phase = .failed → i.run.halted = true := by
  apply lived.all (P := fun i => i.run.phase = .failed → i.run.halted = true) lived.steps
  · intro store failed
    cases failed
  · exact fun _ _ step halts => step_failed_halted halts step

/-- An indexer that has halted stays halted, and a failed one has. Failure lasts, and is what it
means to have halted, in exactly those lives in which no failed indexer is seeded with success:
one that is, is at work and has halted. -/
theorem failed_for_good_iff (lived : Lived config life) :
    (life.Pairwise (fun i j => i.run.phase = .failed → j.run.phase = .failed) ∧
        (∀ i ∈ life, i.run.halted = true ↔ i.run.phase = .failed) ↔
      life.IsChain fun i j => ¬ Revives config i j) ∧
    (∀ i ∈ life, i.run.phase = .failed → i.run.halted = true) ∧
    life.Pairwise (fun i j => i.run.halted = true → j.run.halted = true) ∧
    ∀ i ∈ life, ∀ j, Revives config i j → j.run.phase = .running ∧ j.run.halted = true := by
  have halts := lived_failed_halted lived
  refine ⟨⟨fun ⟨lasts, _⟩ => ?_, fun unrevived => ?_⟩, halts, lived_halted lived,
    fun i member j => revives_halted (halts i member)⟩
  · apply lasts.isChain.imp
    rintro i j lasting ⟨failed, chain, backend, times, seeded⟩
    have running := Indexer.seed_ok seeded
    simp [lasting failed] at running
  · have steps : life.IsChain fun i j => Step config i j ∧ ¬ Revives config i j := by
      apply List.isChain_iff_getElem.mpr
      intro m within
      exact ⟨lived.steps.getElem m within, unrevived.getElem m within⟩
    constructor
    · apply List.IsChain.pairwise
      apply steps.imp
      intro i j ⟨step, lasting⟩ failed
      exact (step_failed step failed).resolve_right lasting
    · apply lived.all (P := fun i => i.run.halted = true ↔ i.run.phase = .failed) steps
      · intro store
        simp [Indexer.start]
      · exact fun _ _ ⟨step, lasting⟩ agrees => step_agrees step lasting agrees

/-! A store that refuses to be prepared, and does not when the indexer is seeded once more. -/

def refusedStart : Indexer Journal := .start { refusesMigration := true }

def refusedSeeding : Indexer Journal := Delivery.quietSeeded Journal.backend refusedStart

def reopened : Indexer Journal :=
  { refusedSeeding with world.store := { refusedSeeding.world.store with refusesMigration := false } }

def revived : Indexer Journal := Delivery.quietSeeded Journal.backend reopened

theorem start_refused :
    Indexer.seed Delivery.quietConfig Delivery.quietChain Journal.backend (0 : Int) refusedStart =
      .ok (.error ["Failed to seed sync worker", "Failed to migrate storage",
      "disk full"], refusedSeeding) := Indexer.taken_after refusedStart (by decide +kernel)

theorem reopened_seeded :
    Indexer.seed Delivery.quietConfig Delivery.quietChain Journal.backend (0 : Int) reopened =
      .ok (.ok (), revived) := Delivery.quiet_seeded (by decide +kernel)

theorem revived_lived : Lived Delivery.quietConfig [refusedStart, refusedSeeding, reopened, revived]
    where
  born := ⟨_, _, rfl⟩
  steps := by
    have failing : Step Delivery.quietConfig refusedStart refusedSeeding := .seed start_refused
    have opening : Step Delivery.quietConfig refusedSeeding reopened := .meanwhile _ _
    have seeding : Step Delivery.quietConfig reopened revived := .seed reopened_seeded
    simp [failing, opening, seeding]

theorem failed_for_good_iff_revived :
    Lived Delivery.quietConfig [refusedStart, refusedSeeding, reopened, revived] ∧
      revived.run.phase = .running ∧ revived.run.halted = true ∧
      ¬ ([refusedStart, refusedSeeding, reopened, revived].Pairwise
          (fun i j => i.run.phase = .failed → j.run.phase = .failed) ∧
        ∀ i ∈ [refusedStart, refusedSeeding, reopened, revived],
          i.run.halted = true ↔ i.run.phase = .failed) := by
  obtain ⟨exactly, _, _, after⟩ := failed_for_good_iff revived_lived
  have revives : Revives Delivery.quietConfig reopened revived :=
    ⟨by decide +kernel, _, _, _, reopened_seeded⟩
  obtain ⟨running, halted⟩ := after reopened (by simp) revived revives
  refine ⟨revived_lived, running, halted, fun claimed => ?_⟩
  have unrevived := exactly.mp claimed
  simp [revives] at unrevived

/-- A failed indexer is seeded, and is at work although it has halted. -/
theorem revived_has_halted :
    reopened.run.phase = .failed ∧ reopened.run.halted = true ∧
      Indexer.seed Delivery.quietConfig Delivery.quietChain Journal.backend (0 : Int) reopened =
        .ok (.ok (), revived) ∧
      revived.run.phase = .running ∧ revived.run.halted = true :=
  ⟨by decide +kernel, by decide +kernel, reopened_seeded, by decide +kernel, by decide +kernel⟩

end PoolIndexer.Reseeding
