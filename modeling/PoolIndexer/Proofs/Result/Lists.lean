import Mathlib.Data.List.Forall2
import PoolIndexer.Proofs.Result

/-! Computations done for every element of a list: what comes out stands in the order of the
elements, and nothing comes out if one of them has no result. -/
namespace PoolIndexer.Result

variable {ε α β : Type} {f : α → Except ε β} {l : List α}

theorem mapM_iff {results : List β} :
    l.mapM f = .ok results ↔ List.Forall₂ (fun a b => f a = .ok b) l results := by
  induction l generalizing results with
  | nil =>
    rw [List.mapM_nil, List.forall₂_nil_left_iff]
    exact ⟨fun same => (Except.ok.inj same).symm, fun same => congrArg Except.ok same.symm⟩
  | cons a rest ih =>
    rw [List.mapM_cons, bind_ok, List.forall₂_cons_left_iff]
    constructor
    · rintro ⟨b, first, mapping⟩
      obtain ⟨others, mapped, same⟩ := bind_ok.mp mapping
      exact ⟨b, others, first, ih.mp mapped, (Except.ok.inj same).symm⟩
    · rintro ⟨b, others, first, mapped, rfl⟩
      exact ⟨b, first, bind_ok.mpr ⟨others, ih.mpr mapped, rfl⟩⟩

/-- Computations that agree place by place give the same, be it values or an error. -/
theorem mapM_congr {γ : Type} {g : γ → Except ε β} {l' : List γ}
    (agree : List.Forall₂ (fun a c => f a = g c) l l') : l.mapM f = l'.mapM g := by
  induction agree with
  | nil => rfl
  | cons here _ ih => rw [List.mapM_cons, List.mapM_cons, here, ih]

/-- The first element that has an error decides; what stands behind it does not matter. -/
theorem mapM_error {e : ε} :
    l.mapM f = .error e ↔ ∃ before a after, l = before ++ a :: after ∧
      (∀ b ∈ before, ∃ r, f b = .ok r) ∧ f a = .error e := by
  constructor
  · intro failed
    induction l with
    | nil => cases failed
    | cons a rest ih =>
      rw [List.mapM_cons] at failed
      rcases bind_error.mp failed with fails | ⟨r, done, behind⟩
      · exact ⟨[], a, rest, rfl, by simp, fails⟩
      · rcases bind_error.mp behind with later | ⟨others, -, same⟩
        · obtain ⟨before, b, after, rfl, earlier, fails⟩ := ih later
          exact ⟨a :: before, b, after, rfl, List.forall_mem_cons.mpr ⟨⟨r, done⟩, earlier⟩, fails⟩
        · cases same
  · rintro ⟨before, a, after, rfl, earlier, fails⟩
    induction before with
    | nil =>
      rw [List.nil_append, List.mapM_cons]
      exact bind_error.mpr (.inl fails)
    | cons b before ih =>
      obtain ⟨⟨r, done⟩, earlier⟩ := List.forall_mem_cons.mp earlier
      rw [List.cons_append, List.mapM_cons]
      exact bind_error.mpr (.inr ⟨r, done, bind_error.mpr (.inl (ih earlier))⟩)

/-- Results that each have a property come out together. -/
theorem exists_mapM {R : α → β → Prop} (each : ∀ a ∈ l, ∃ b, f a = .ok b ∧ R a b) :
    ∃ results, l.mapM f = .ok results ∧ List.Forall₂ R l results := by
  simp only [mapM_iff]
  induction l with
  | nil => exact ⟨[], .nil, .nil⟩
  | cons a rest ih =>
    rw [List.forall_mem_cons] at each
    obtain ⟨b, done, holds⟩ := each.1
    obtain ⟨results, mapped, every⟩ := ih each.2
    exact ⟨b :: results, .cons done mapped, .cons holds every⟩

/-- The values among results are those of the elements that have one. -/
theorem filterMap_toOption (f : α → Except ε β) (l : List α) :
    List.Forall₂ (fun a b => f a = .ok b) (l.filter fun a => (f a).isOk)
      ((l.map f).filterMap (·.toOption)) := by
  induction l with
  | nil => exact .nil
  | cons a rest ih =>
    rw [List.filter_cons, List.map_cons]
    cases given : f a with
    | error e => exact ih
    | ok b => exact .cons given ih

/-- Elements may be left out together with their results. -/
theorem mapM_filter {p : α → Bool} {q : β → Bool} (agree : ∀ {a b}, f a = .ok b → q b = p a)
    {results : List β} (mapped : l.mapM f = .ok results) :
    (l.filter p).mapM f = .ok (results.filter q) := by
  rw [mapM_iff] at mapped ⊢
  induction mapped with
  | nil => exact .nil
  | @cons a b rest results done others ih =>
    rw [List.filter_cons, List.filter_cons, agree done]
    split
    · exact .cons done ih
    · exact ih

/-! ## Lists put together -/

section

variable {f : α → Except ε (List β)} {p : α → Bool} (silent : ∀ a, ¬ p a → f a = .ok [])
include silent

/-- Lists that come out for each element are those of the elements that count, as the others give
nothing. -/
theorem flatten_mapM_ok {R : α → List β → Prop}
    (counted : ∀ a, p a → ∀ list, f a = .ok list ↔ R a list) {joined : List β} :
    (do return (← l.mapM f).flatten : Except ε (List β)) = .ok joined ↔
      ∃ lists, List.Forall₂ R (l.filter p) lists ∧ joined = lists.flatten := by
  simp only [return_ok, mapM_iff]
  induction l generalizing joined with
  | nil => simp
  | cons a rest ih =>
    by_cases counts : p a
    · simp only [List.filter_cons_of_pos counts, List.forall₂_cons_left_iff, counted a counts]
      constructor
      · rintro ⟨_, ⟨list, others, here, behind, rfl⟩, rfl⟩
        obtain ⟨lists, reads, same⟩ := ih.mp ⟨others, behind, rfl⟩
        exact ⟨_, ⟨list, lists, here, reads, rfl⟩, by simp [same]⟩
      · rintro ⟨_, ⟨list, lists, here, reads, rfl⟩, rfl⟩
        obtain ⟨others, behind, same⟩ := ih.mpr ⟨lists, reads, rfl⟩
        exact ⟨_, ⟨list, others, here, behind, rfl⟩, by simp [same]⟩
    · -- the empty list that comes out adds nothing to what is put together
      rw [List.filter_cons_of_neg counts, ← ih]
      constructor
      · rintro ⟨_, both, rfl⟩
        obtain ⟨list, others, here, behind, rfl⟩ := List.forall₂_cons_left_iff.mp both
        rw [silent a counts] at here
        cases here
        exact ⟨others, behind, rfl⟩
      · rintro ⟨others, behind, rfl⟩
        exact ⟨[] :: others, .cons (silent a counts) behind, rfl⟩

theorem exists_flatten_mapM :
    (∃ joined, (do return (← l.mapM f).flatten : Except ε (List β)) = .ok joined) ↔
      ∀ a ∈ l, p a → ∃ list, f a = .ok list := by
  simp only [exists_bind_ok, exists_pure_ok, and_true, mapM_ok]
  refine forall₂_congr fun a _ => ⟨fun gives _ => gives, fun gives => ?_⟩
  by_cases counts : p a
  · exact gives counts
  · exact ⟨[], silent a counts⟩

end

end PoolIndexer.Result
