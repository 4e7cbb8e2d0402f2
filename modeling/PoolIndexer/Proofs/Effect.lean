import PoolIndexer.Proofs.Backend
import PoolIndexer.Proofs.Task

/-! What a step comes to from a store. On a backend that mirrors the store in memory a step either
has a result, which goes together with the store it leaves, or it stops at some store on the way. On
the store in memory itself it can be said of a step that it reaches its end. -/
namespace PoolIndexer.Task

variable {σ α β : Type} {view : σ → Store} {s : Store}

/-- From a store the step has a result and leaves a store that go together, or it stops at a store
of a kind. -/
structure Effect (view : σ → Store) (t : Task σ α) (s : Store) (done : α → Store → Prop)
    (stopped : Store → Prop) : Prop where
  ok : ∀ {w a v}, view w.store = s → t w = (.ok a, v) → done a (view v.store)
  error : ∀ {w e v}, view w.store = s → t w = (.error e, v) → stopped (view v.store)

section

variable {t : Task σ α} {done done' : α → Store → Prop} {stopped : Store → Prop}

theorem Effect.mono (effect : Effect view t s done stopped)
    (weaker : ∀ {a s'}, done a s' → done' a s') : Effect view t s done' stopped where
  ok from' run := weaker (effect.ok from' run)
  error from' run := effect.error from' run

theorem effect_pure {a : α} (holds : done a s) : Effect view (pure a : Task σ α) s done stopped where
  ok from' run := by
    cases run
    rwa [from']
  error _ run := by cases run

theorem Effect.bind {next : α → Task σ β} {last : β → Store → Prop}
    (first : Effect view t s done stopped)
    (rest : ∀ {a s'}, done a s' → Effect view (next a) s' last stopped) :
    Effect view (t >>= next) s last stopped where
  ok from' run := by
    obtain ⟨a, u, ran, after⟩ := bind_ok.mp run
    exact (rest (first.ok from' ran)).ok rfl after
  error from' run := by
    rcases bind_error.mp run with here | ⟨a, u, ran, after⟩
    · exact first.error from' here
    · exact (rest (first.ok from' ran)).error rfl after

/-- A step that leaves the store alone does so whether it succeeds or stops. -/
theorem effect_unchanged {P : α → Prop} (unchanged : Respects World.Unchanged t)
    (yields : Yields P t) (here : stopped s) :
    Effect view t s (fun a s' => P a ∧ s' = s) stopped where
  ok {w a v} from' run := by
    have same := (unchanged w).store
    rw [run] at same
    exact ⟨yields run, (congrArg view same).trans from'⟩
  error {w e v} from' run := by
    have same := (unchanged w).store
    rw [run] at same
    have same : view v.store = s := (congrArg view same).trans from'
    rwa [same]

/-- What mirrors an action of the store in memory has its effect, or none. -/
theorem effect_perform {action : Action σ α} {original : Action Store α}
    (mirrors : Action.Mirrors view action original) (circumstance : List String)
    (does : ∀ {a s'}, original s = (.ok a, s') → done a s') (here : stopped s) :
    Effect view (perform circumstance action) s done stopped where
  ok from' run := by
    obtain ⟨store, acted, rfl⟩ := perform_ok.mp run
    subst from'
    exact does (mirrors.ok acted)
  error {w e v} from' run := by
    unfold perform at run
    split at run
    · cases run
    · rename_i failed
      cases run
      have same : _ = s := (mirrors.error failed).trans from'
      simpa only [same] using here

end

/-! ## Reaching the end -/

/-- From a store the step comes to a result and a store, whatever it was asked before and whichever
pairs are registered. -/
def Reaches (t : Task Store α) (s : Store) (a : α) (s' : Store) : Prop :=
  ∀ ⦃w⦄, w.store = s → ∃ v, t w = (.ok a, v) ∧ v.store = s'

section

variable {t : Task Store α} {a : α} {b : β} {s' s'' : Store}

theorem reaches_pure (a : α) (s : Store) : Reaches (pure a) s a s :=
  fun w from' => ⟨w, rfl, from'⟩

theorem Reaches.bind {next : α → Task Store β} (first : Reaches t s a s')
    (rest : Reaches (next a) s' b s'') : Reaches (t >>= next) s b s'' := by
  intro w from'
  obtain ⟨u, ran, there⟩ := first from'
  obtain ⟨v, after, last⟩ := rest there
  exact ⟨v, bind_ok.mpr ⟨a, u, ran, after⟩, last⟩

theorem reaches_perform {action : Action Store α} (acts : action s = (.ok a, s'))
    (circumstance : List String) : Reaches (perform circumstance action) s a s' := by
  rintro w rfl
  exact ⟨_, perform_ok.mpr ⟨s', acts, rfl⟩, rfl⟩

theorem Gives.reaches (gives : Gives t a) (unchanged : Respects World.Unchanged t) (s : Store) :
    Reaches t s a s := by
  intro w from'
  obtain ⟨v, ran⟩ := gives w
  have same := (unchanged w).store
  rw [ran] at same
  exact ⟨v, ran, same.trans from'⟩

end

end PoolIndexer.Task
