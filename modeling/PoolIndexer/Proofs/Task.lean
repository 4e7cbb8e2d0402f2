import PoolIndexer.Indexer.Task

/-! Reading steps. A step that succeeds is taken apart at its binds, and a relation between worlds
that every part respects is respected by the whole, whether the step succeeds or stops. -/
namespace PoolIndexer

/-- The store and the registered pairs are the same; only more may have been asked. -/
structure World.Unchanged {σ : Type} (w v : World σ) : Prop where
  store : v.store = w.store
  registry : v.registry = w.registry

instance {σ : Type} : Std.Refl (World.Unchanged (σ := σ)) := ⟨fun _ => ⟨rfl, rfl⟩⟩

instance {σ : Type} : Trans (World.Unchanged (σ := σ)) World.Unchanged World.Unchanged where
  trans first second :=
    ⟨second.store.trans first.store, second.registry.trans first.registry⟩

namespace Task

variable {σ α β : Type} {w v : World σ}

theorem bind_apply (t : Task σ α) (next : α → Task σ β) (w : World σ) :
    (t >>= next) w = match t w with
      | (.ok a, u) => next a u
      | (.error e, u) => (.error e, u) := rfl

theorem bind_pure_apply (t : Task σ α) : (t >>= fun a => pure a) = t := by
  funext w
  rw [bind_apply]
  rcases t w with ⟨_ | _, _⟩ <;> rfl

theorem bind_bind {γ : Type} (t : Task σ α) (f : α → Task σ β) (g : β → Task σ γ) :
    (t >>= f) >>= g = t >>= fun a => f a >>= g := by
  funext w
  simp only [bind_apply]
  rcases t w with ⟨_ | _, _⟩ <;> rfl

instance : LawfulMonad (Task σ) :=
  LawfulMonad.mk' _ (fun t => bind_pure_apply t) (fun _ _ => rfl) (fun t f g => bind_bind t f g)

theorem bind_ok {t : Task σ α} {next : α → Task σ β} {b : β} :
    (t >>= next) w = (.ok b, v) ↔ ∃ a u, t w = (.ok a, u) ∧ next a u = (.ok b, v) := by
  rw [bind_apply]
  constructor
  · intro h
    rcases ht : t w with ⟨e | a, u⟩
    · simp [ht] at h
    · exact ⟨a, u, rfl, by simpa [ht] using h⟩
  · rintro ⟨a, u, ht, h⟩
    simpa [ht] using h

theorem bind_error {t : Task σ α} {next : α → Task σ β} {e : Fault} :
    (t >>= next) w = (.error e, v) ↔
      t w = (.error e, v) ∨ ∃ a u, t w = (.ok a, u) ∧ next a u = (.error e, v) := by
  rw [bind_apply]
  rcases t w with ⟨e' | a, u⟩
  · simp
  · constructor
    · exact fun stopped => .inr ⟨a, u, rfl, stopped⟩
    · rintro (stopped | ⟨a, u, same, stopped⟩)
      · cases stopped
      · cases same
        exact stopped

theorem ask_ok {query : ChainQuery} {answer a : Except String α} :
    ask query answer w = (.ok a, v) ↔ a = answer ∧ v = { w with asked := w.asked ++ [query] } := by
  simp [ask, eq_comm]

theorem registered_ok {registry : List (String × Pair)} :
    registered w = (.ok registry, v) ↔ registry = w.registry ∧ v = w := by
  simp [registered, eq_comm]

theorem need_ok {circumstance : List String} {answer : Except String α} {a : α} :
    need circumstance answer w = (.ok a, v) ↔ answer = .ok a ∧ v = w := by
  cases answer with
  | ok b =>
    change (Except.ok b, w) = _ ↔ _
    simp [eq_comm]
  | error e => simp [need]

theorem compute_ok {result : Except ArithmeticError α} {a : α} :
    compute result w = (.ok a, v) ↔ result = .ok a ∧ v = w := by
  cases result with
  | ok b =>
    change (Except.ok b, w) = _ ↔ _
    simp [eq_comm]
  | error e => simp [compute]

theorem perform_ok {circumstance : List String} {action : Action σ α} {a : α} :
    perform circumstance action w = (.ok a, v) ↔
      ∃ store, action w.store = (.ok a, store) ∧ v = { w with store } := by
  unfold perform
  rcases h : action w.store with ⟨e | b, store⟩
  · simp
  · constructor
    · intro same
      cases same
      exact ⟨store, rfl, rfl⟩
    · rintro ⟨store', same, rfl⟩
      cases same
      rfl

/-- A step that can be seen to succeed has a result. -/
theorem ok_of_isSome {t : Task σ α} (succeeds : (t w).1.toOption.isSome) :
    ∃ a v, t w = (.ok a, v) := by
  rcases done : t w with ⟨e | a, v⟩
  · simp [done, Except.toOption] at succeeds
  · exact ⟨a, v, rfl⟩

/-! ## Relations that a step respects -/

/-- Whatever the step comes to, the world it leaves stands in a relation to the one it found. -/
def Respects (R : World σ → World σ → Prop) (t : Task σ α) : Prop := ∀ w, R w (t w).2

section

variable {R : World σ → World σ → Prop}

theorem respects_pure [refl : Std.Refl R] (a : α) : Respects R (pure a : Task σ α) :=
  fun w => refl.refl w

theorem respects_need [refl : Std.Refl R] (circumstance : List String)
    (answer : Except String α) : Respects R (need circumstance answer) := by
  intro w
  cases answer with
  | ok a => exact refl.refl w
  | error e => exact refl.refl w

theorem respects_compute [refl : Std.Refl R] (result : Except ArithmeticError α) :
    Respects R (compute result) := by
  intro w
  cases result with
  | ok a => exact refl.refl w
  | error e => exact refl.refl w

theorem respects_registered [refl : Std.Refl R] : Respects R registered := fun w => refl.refl w

/-- What follows a step may rely on what the step has come to. -/
theorem Respects.bind_ok [trans : Trans R R R] {t : Task σ α} {next : α → Task σ β}
    (first : Respects R t) (rest : ∀ {w a u}, t w = (.ok a, u) → R u (next a u).2) :
    Respects R (t >>= next) := by
  intro w
  have step := first w
  rw [bind_apply]
  rcases h : t w with ⟨e | a, u⟩
  · simpa only [h] using step
  · rw [h] at step
    exact trans.trans step (rest h)

theorem Respects.bind [Trans R R R] {t : Task σ α} {next : α → Task σ β}
    (first : Respects R t) (rest : ∀ a, Respects R (next a)) : Respects R (t >>= next) :=
  first.bind_ok fun {_ a u} _ => rest a u

theorem Respects.mapM [Std.Refl R] [Trans R R R] {f : α → Task σ β}
    (each : ∀ a, Respects R (f a)) (list : List α) : Respects R (list.mapM f) := by
  induction list with
  | nil =>
    rw [List.mapM_nil]
    exact respects_pure _
  | cons a rest ih =>
    rw [List.mapM_cons]
    exact (each a).bind fun _ => ih.bind fun _ => respects_pure _

end

/-! ## What a step can result in -/

/-- Every result that the step can have has a property. -/
def Yields (P : α → Prop) (t : Task σ α) : Prop := ∀ ⦃w a v⦄, t w = (.ok a, v) → P a

section

variable {P : α → Prop}

theorem yields_pure {a : α} (holds : P a) : Yields P (pure a : Task σ α) := by
  intro w b v given
  cases given
  exact holds

/-- The last step of a sequence decides. -/
theorem Yields.bind {t : Task σ β} {next : β → Task σ α} (rest : ∀ b, Yields P (next b)) :
    Yields P (t >>= next) := by
  intro w a v given
  obtain ⟨b, u, _, last⟩ := bind_ok.mp given
  exact rest b last

/-- The last step may rely on what the ones before it have come to. -/
theorem Yields.andThen {Q : β → Prop} {t : Task σ β} {next : β → Task σ α} (first : Yields Q t)
    (rest : ∀ b, Q b → Yields P (next b)) : Yields P (t >>= next) := by
  intro w a v given
  obtain ⟨b, u, done, last⟩ := bind_ok.mp given
  exact rest b (first done) last

theorem yields_compute {result : Except ArithmeticError α} (yields : ∀ a, result = .ok a → P a) :
    Yields P (compute result : Task σ α) := by
  intro w a v computed
  exact yields a (compute_ok.mp computed).1

end

/-! ## Steps that always have one result -/

/-- Wherever it begins, the step has this result. -/
def Gives (t : Task σ α) (a : α) : Prop := ∀ w, ∃ v, t w = (.ok a, v)

section

variable {a : α}

theorem gives_pure (a : α) : Gives (pure a : Task σ α) a := fun w => ⟨w, rfl⟩

theorem gives_ask (query : ChainQuery) (answer : Except String α) :
    Gives (ask query answer : Task σ (Except String α)) answer := fun _ => ⟨_, rfl⟩

theorem gives_need (circumstance : List String) {answer : Except String α} (has : answer = .ok a) :
    Gives (need circumstance answer : Task σ α) a :=
  fun w => ⟨w, need_ok.mpr ⟨has, rfl⟩⟩

theorem gives_compute {result : Except ArithmeticError α} (has : result = .ok a) :
    Gives (compute result : Task σ α) a :=
  fun w => ⟨w, compute_ok.mpr ⟨has, rfl⟩⟩

theorem Gives.bind {t : Task σ α} {next : α → Task σ β} {b : β} (first : Gives t a)
    (rest : Gives (next a) b) : Gives (t >>= next) b := by
  intro w
  obtain ⟨u, ran⟩ := first w
  obtain ⟨v, after⟩ := rest u
  exact ⟨v, bind_ok.mpr ⟨a, u, ran, after⟩⟩

theorem Gives.mapM {f : α → Task σ β} {g : α → β} (each : ∀ a, Gives (f a) (g a))
    (list : List α) : Gives (list.mapM f) (list.map g) := by
  induction list with
  | nil =>
    rw [List.mapM_nil]
    exact gives_pure _
  | cons a rest ih =>
    rw [List.mapM_cons]
    exact (each a).bind (ih.bind (gives_pure _))

theorem Gives.yields {t : Task σ α} (gives : Gives t a) : Yields (· = a) t := by
  intro w b v ran
  obtain ⟨u, same⟩ := gives w
  rw [ran] at same
  cases same
  rfl

end

/-! ## Where a step stops at an arithmetic error -/

/-- The step stops at an arithmetic error. -/
def Breaks (t : Task σ α) (w : World σ) : Prop := ∃ e v, t w = (.error (.arithmetic e), v)

/-- The step never stops at an arithmetic error, whatever else it may stop at. -/
def Sturdy (t : Task σ α) : Prop := ∀ w, ¬ Breaks t w

theorem bind_breaks {t : Task σ α} {next : α → Task σ β} :
    Breaks (t >>= next) w ↔ Breaks t w ∨ ∃ a u, t w = (.ok a, u) ∧ Breaks (next a) u := by
  unfold Breaks
  simp only [bind_error]
  constructor
  · rintro ⟨e, v, here | ⟨a, u, ran, after⟩⟩
    · exact .inl ⟨e, v, here⟩
    · exact .inr ⟨a, u, ran, e, v, after⟩
  · rintro (⟨e, v, here⟩ | ⟨a, u, ran, e, v, after⟩)
    · exact ⟨e, v, .inl here⟩
    · exact ⟨e, v, .inr ⟨a, u, ran, after⟩⟩

/-- After a step that succeeds, the rest decides. -/
theorem bind_outcome {t : Task σ α} {next : α → Task σ β} {a : α} {u : World σ}
    (done : t w = (.ok a, u)) (rest : Breaks (next a) u ∨ ∃ b v, next a u = (.ok b, v)) :
    Breaks (t >>= next) w ∨ ∃ b v, (t >>= next) w = (.ok b, v) := by
  rcases rest with breaks | ⟨b, v, ran⟩
  · exact .inl (bind_breaks.mpr (.inr ⟨a, u, done, breaks⟩))
  · exact .inr ⟨b, v, bind_ok.mpr ⟨a, u, done, ran⟩⟩

theorem compute_breaks {result : Except ArithmeticError α} :
    Breaks (compute result : Task σ α) w ↔ ¬ ∃ a, result = .ok a := by
  cases result with
  | ok a => simp [Breaks, compute, Task.pure]
  | error e =>
    refine iff_of_true ⟨e, w, rfl⟩ ?_
    rintro ⟨a, given⟩
    cases given

theorem Sturdy.bind_breaks {t : Task σ α} (sturdy : Sturdy t) {next : α → Task σ β} :
    Breaks (t >>= next) w ↔ ∃ a u, t w = (.ok a, u) ∧ Breaks (next a) u := by
  rw [Task.bind_breaks, or_iff_right (sturdy w)]

theorem sturdy_pure (a : α) : Sturdy (pure a : Task σ α) := by
  rintro w ⟨e, v, stopped⟩
  cases stopped

theorem sturdy_ask (query : ChainQuery) (answer : Except String α) :
    Sturdy (ask query answer : Task σ (Except String α)) := by
  rintro w ⟨e, v, stopped⟩
  cases stopped

theorem sturdy_registered : Sturdy (registered : Task σ _) := by
  rintro w ⟨e, v, stopped⟩
  cases stopped

theorem sturdy_need (circumstance : List String) (answer : Except String α) :
    Sturdy (need circumstance answer : Task σ α) := by
  rintro w ⟨e, v, stopped⟩
  cases answer with
  | ok a => cases stopped
  | error text => cases stopped

theorem sturdy_perform (circumstance : List String) (action : Action σ α) :
    Sturdy (perform circumstance action) := by
  rintro w ⟨e, v, stopped⟩
  unfold perform at stopped
  split at stopped
  · cases stopped
  · cases stopped

theorem Sturdy.bind {t : Task σ α} {next : α → Task σ β} (first : Sturdy t)
    (rest : ∀ a, Sturdy (next a)) : Sturdy (t >>= next) := by
  intro w stopped
  obtain ⟨a, u, _, later⟩ := first.bind_breaks.mp stopped
  exact rest a u later

theorem Sturdy.mapM {f : α → Task σ β} (each : ∀ a, Sturdy (f a)) (list : List α) :
    Sturdy (list.mapM f) := by
  induction list with
  | nil =>
    rw [List.mapM_nil]
    exact sturdy_pure _
  | cons a rest ih =>
    rw [List.mapM_cons]
    exact (each a).bind fun _ => ih.bind fun _ => sturdy_pure _

end Task
end PoolIndexer
