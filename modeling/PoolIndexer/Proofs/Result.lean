/-! Results that are a value or an error, read from the value back to what gave it. -/
namespace PoolIndexer.Result

variable {ε α β : Type}

theorem isOk_iff {x : Except ε α} : x.isOk = true ↔ ∃ a, x = .ok a := by
  cases x <;> simp [Except.isOk, Except.toBool]

theorem bind_ok {x : Except ε α} {f : α → Except ε β} {b : β} :
    (x >>= f) = .ok b ↔ ∃ a, x = .ok a ∧ f a = .ok b := by
  cases x with
  | error e => simp [bind, Except.bind]
  | ok a => simp [bind, Except.bind]

theorem bind_error {x : Except ε α} {f : α → Except ε β} {e : ε} :
    (x >>= f) = .error e ↔ x = .error e ∨ ∃ a, x = .ok a ∧ f a = .error e := by
  cases x with
  | error e => simp [bind, Except.bind]
  | ok a => simp [bind, Except.bind]

theorem exists_bind_ok {x : Except ε α} {f : α → Except ε β} :
    (∃ b, (x >>= f) = .ok b) ↔ ∃ a, x = .ok a ∧ ∃ b, f a = .ok b := by
  simp only [bind_ok]
  constructor
  · rintro ⟨b, a, first, rest⟩
    exact ⟨a, first, b, rest⟩
  · rintro ⟨a, first, b, rest⟩
    exact ⟨b, a, first, rest⟩

@[simp] theorem exists_pure_ok (a : α) : (∃ b, (pure a : Except ε α) = .ok b) ↔ True :=
  iff_true_intro ⟨a, rfl⟩

theorem return_ok {x : Except ε α} {f : α → β} {b : β} :
    (do return f (← x) : Except ε β) = .ok b ↔ ∃ a, x = .ok a ∧ b = f a := by
  rw [bind_ok]
  exact exists_congr fun a => and_congr_right fun _ =>
    ⟨fun same => (Except.ok.inj same).symm, fun same => congrArg Except.ok same.symm⟩

theorem map_ok {x : Except ε α} {f : α → β} {b : β} :
    x.map f = .ok b ↔ ∃ a, x = .ok a ∧ f a = b := by
  cases x with
  | error e => simp [Except.map]
  | ok a => simp [Except.map]

theorem mapM_ok {f : α → Except ε β} {l : List α} :
    (∃ results, l.mapM f = .ok results) ↔ ∀ a ∈ l, ∃ b, f a = .ok b := by
  induction l with
  | nil => simp [pure, Except.pure]
  | cons a rest ih =>
    rw [List.forall_mem_cons, ← ih]
    constructor
    · rintro ⟨results, mapped⟩
      rw [List.mapM_cons] at mapped
      obtain ⟨b, first, mapping⟩ := bind_ok.mp mapped
      obtain ⟨others, rest, _⟩ := bind_ok.mp mapping
      exact ⟨⟨b, first⟩, others, rest⟩
    · rintro ⟨⟨b, first⟩, others, rest⟩
      refine ⟨b :: others, ?_⟩
      rw [List.mapM_cons]
      exact bind_ok.mpr ⟨b, first, bind_ok.mpr ⟨others, rest, rfl⟩⟩

/-- What comes out for each element by one computation, comes out by another that agrees with it. -/
theorem mapM_of_ok {f g : α → Except ε β} (agrees : ∀ {a b}, f a = .ok b → g a = .ok b)
    {l : List α} {results : List β} (mapped : l.mapM f = .ok results) :
    l.mapM g = .ok results := by
  induction l generalizing results with
  | nil => exact mapped
  | cons a rest ih =>
    rw [List.mapM_cons] at mapped ⊢
    obtain ⟨b, first, mapping⟩ := bind_ok.mp mapped
    obtain ⟨others, restMapped, same⟩ := bind_ok.mp mapping
    exact bind_ok.mpr ⟨b, agrees first, bind_ok.mpr ⟨others, ih restMapped, same⟩⟩

theorem mapM_length {f : α → Except ε β} {l : List α} {results : List β}
    (mapped : l.mapM f = .ok results) : results.length = l.length := by
  induction l generalizing results with
  | nil =>
    cases mapped
    rfl
  | cons a rest ih =>
    rw [List.mapM_cons] at mapped
    obtain ⟨b, _, mapping⟩ := bind_ok.mp mapped
    obtain ⟨others, restMapped, same⟩ := bind_ok.mp mapping
    cases same
    rw [List.length_cons, List.length_cons, ih restMapped]

theorem mem_mapM {f : α → Except ε β} {l : List α} {results : List β}
    (mapped : l.mapM f = .ok results) {b : β} (member : b ∈ results) : ∃ a ∈ l, f a = .ok b := by
  induction l generalizing results with
  | nil =>
    cases mapped
    cases member
  | cons a rest ih =>
    rw [List.mapM_cons] at mapped
    obtain ⟨first, done, mapping⟩ := bind_ok.mp mapped
    obtain ⟨others, restMapped, same⟩ := bind_ok.mp mapping
    cases same
    rcases List.mem_cons.mp member with rfl | later
    · exact ⟨a, List.mem_cons_self, done⟩
    · obtain ⟨c, among, found⟩ := ih restMapped later
      exact ⟨c, List.mem_cons_of_mem _ among, found⟩

/-! ## Whether there is a result -/

theorem isOk_bind_congr {x : Except ε α} {f g : α → Except ε β}
    (alike : ∀ a, (f a).isOk = (g a).isOk) : (x >>= f).isOk = (x >>= g).isOk := by
  cases x with
  | error e => rfl
  | ok a => exact alike a

@[simp] theorem isOk_map (x : Except ε α) (f : α → β) : (f <$> x).isOk = x.isOk := by
  cases x <;> rfl

@[simp] theorem isOk_mapM (f : α → Except ε β) (l : List α) :
    (l.mapM f).isOk = l.all fun a => (f a).isOk := by
  rw [Bool.eq_iff_iff, isOk_iff, mapM_ok]
  simp [isOk_iff]

/-! ## What a result can be -/

/-- Every value that comes out has a property. -/
def Yields (P : α → Prop) (x : Except ε α) : Prop := ∀ ⦃a⦄, x = .ok a → P a

section

variable {P : α → Prop}

theorem yields_ok {a : α} (holds : P a) : Yields P (.ok a : Except ε α) := by
  intro b given
  cases given
  exact holds

theorem yields_error (e : ε) : Yields P (.error e) := fun _ given => nomatch given

/-- The last computation of a sequence decides. -/
theorem yields_bind {x : Except ε β} {f : β → Except ε α} (rest : ∀ b, Yields P (f b)) :
    Yields P (x >>= f) := by
  intro a given
  obtain ⟨b, _, last⟩ := bind_ok.mp given
  exact rest b last

theorem Yields.bind {Q : β → Prop} {x : Except ε β} {f : β → Except ε α} (first : Yields Q x)
    (rest : ∀ b, Q b → Yields P (f b)) : Yields P (x >>= f) := by
  intro a given
  obtain ⟨b, done, last⟩ := bind_ok.mp given
  exact rest b (first done) last

/-- Lists put together of what comes out for each element. -/
theorem Yields.flatten {f : β → Except ε (List α)} (each : ∀ b, Yields (∀ a ∈ ·, P a) (f b))
    (l : List β) :
    Yields (∀ a ∈ ·, P a) (do return (← l.mapM f).flatten : Except ε (List α)) := by
  intro joined given a member
  obtain ⟨lists, mapped, same⟩ := bind_ok.mp given
  cases same
  obtain ⟨list, among, found⟩ := List.mem_flatten.mp member
  obtain ⟨b, _, done⟩ := mem_mapM mapped among
  exact each b done a found

end

end PoolIndexer.Result
