import PoolIndexer.Keyed

/-! Changing the value of a key twice, changing all values alike, and what is found under a key
after a change. -/
namespace PoolIndexer.Keyed

variable {κ α β : Type} [LT κ] [DecidableLT κ] [DecidableEq κ] {key : κ}

/-! ## Changes -/

theorem upsert_upsert [Std.Irrefl (α := κ) (· < ·)] (f g : Option α → α)
    (entries : List (κ × α)) :
    upsert key g (upsert key f entries) = upsert key (fun old => g (some (f old))) entries := by
  have irreflexive : ¬ key < key := Std.Irrefl.irrefl key
  induction entries with
  | nil => simp [upsert, irreflexive]
  | cons entry rest ih =>
    obtain ⟨k, a⟩ := entry
    by_cases before : key < k
    · simp [upsert, before, irreflexive]
    · by_cases here : key = k
      · subst here
        simp [upsert, irreflexive]
      · simp [upsert, before, here, ih]

theorem map_upsert {f : Option α → α} {g : Option β → β} {h : α → β} (new : h (f none) = g none)
    (present : ∀ a, h (f (some a)) = g (some (h a))) (entries : List (κ × α)) :
    (upsert key f entries).map (Prod.map id h) = upsert key g (entries.map (Prod.map id h)) := by
  induction entries with
  | nil => simp [upsert, new]
  | cons entry rest ih =>
    obtain ⟨k, a⟩ := entry
    by_cases before : key < k
    · simp [upsert, before, new]
    · by_cases here : key = k
      · subst here
        simp [upsert, before, present]
      · simp [upsert, before, here, ih]

/-- A key that is new comes to the entries. -/
theorem upsert_perm {entries : List (κ × α)} (absent : ∀ entry ∈ entries, entry.1 ≠ key)
    (f : Option α → α) : (upsert key f entries).Perm ((key, f none) :: entries) := by
  induction entries with
  | nil => exact .refl _
  | cons entry rest ih =>
    obtain ⟨k, a⟩ := entry
    obtain ⟨here, others⟩ := List.forall_mem_cons.mp absent
    by_cases before : key < k
    · simp [upsert, before]
    · simp only [upsert, before, Ne.symm here, if_false]
      exact ((ih others).cons _).trans (.swap _ _ _)

/-- The keys are those before and the one that is changed. -/
theorem mem_keys_upsert {k : κ} (f : Option α → α) (entries : List (κ × α)) :
    k ∈ (upsert key f entries).map (·.1) ↔ k = key ∨ k ∈ entries.map (·.1) := by
  induction entries with
  | nil => simp [upsert]
  | cons entry rest ih =>
    obtain ⟨k', a⟩ := entry
    by_cases before : key < k'
    · simp [upsert, before]
    · by_cases here : key = k'
      · subst here
        simp [upsert, before]
      · simp only [upsert, before, here, if_false, List.map_cons, List.mem_cons, ih]
        exact or_left_comm

/-! ## What is found under a key -/

/-- The keys ascend. -/
def Sorted (entries : List (κ × α)) : Prop := entries.Pairwise (·.1 < ·.1)

/-- What holds of all entries is kept by a change that keeps it of its key. -/
theorem forall_upsert {P : κ × α → Prop} {f : Option α → α} {entries : List (κ × α)}
    (all : ∀ entry ∈ entries, P entry) (new : P (key, f none))
    (present : ∀ a, P (key, a) → P (key, f (some a))) :
    ∀ entry ∈ upsert key f entries, P entry := by
  induction entries with
  | nil => simpa [upsert] using new
  | cons head rest ih =>
    obtain ⟨k, a⟩ := head
    obtain ⟨first, others⟩ := List.forall_mem_cons.mp all
    by_cases before : key < k
    · simpa only [upsert, before, if_true] using List.forall_mem_cons.mpr ⟨new, all⟩
    · by_cases here : key = k
      · subst here
        simp only [upsert, before, if_false, if_true]
        exact List.forall_mem_cons.mpr ⟨present a first, others⟩
      · simp only [upsert, before, here, if_false]
        exact List.forall_mem_cons.mpr ⟨first, ih others⟩

omit [LT κ] [DecidableLT κ] in
theorem lookup_cons_ite (k k' : κ) (a : α) (rest : List (κ × α)) :
    ((k', a) :: rest).lookup k = if k = k' then some a else rest.lookup k := by
  by_cases same : k = k'
  · simp [same]
  · simp [List.lookup_cons, beq_eq_false_iff_ne.mpr same, same]

theorem lookup_upsert_ne {k : κ} (other : k ≠ key) (f : Option α → α)
    (entries : List (κ × α)) : (upsert key f entries).lookup k = entries.lookup k := by
  induction entries with
  | nil => simp [upsert, lookup_cons_ite, other]
  | cons head rest ih =>
    obtain ⟨k', a⟩ := head
    by_cases before : key < k'
    · simp [upsert, before, lookup_cons_ite, other]
    · by_cases here : key = k'
      · subst here
        simp [upsert, before, lookup_cons_ite, other]
      · simp [upsert, before, here, lookup_cons_ite, ih]

theorem lookup_insert_self (value : α) (entries : List (κ × α)) :
    (insert key value entries).lookup key = some value := by
  unfold insert
  induction entries with
  | nil => simp [upsert]
  | cons head rest ih =>
    obtain ⟨k, a⟩ := head
    by_cases before : key < k
    · simp [upsert, before]
    · by_cases here : key = k
      · subst here
        simp [upsert, before]
      · simp [upsert, before, here, lookup_cons_ite, ih]

theorem sorted_upsert [Trans (α := κ) (· < ·) (· < ·) (· < ·)]
    [Std.Trichotomous (α := κ) (· < ·)] {entries : List (κ × α)} (sorted : Sorted entries)
    (f : Option α → α) : Sorted (upsert key f entries) := by
  induction entries with
  | nil => exact List.pairwise_singleton _ _
  | cons head rest ih =>
    obtain ⟨k, a⟩ := head
    obtain ⟨above, sortedRest⟩ := List.pairwise_cons.mp sorted
    by_cases before : key < k
    · simp only [upsert, before, if_true]
      refine List.pairwise_cons.mpr ⟨fun entry member => ?_, sorted⟩
      rcases List.mem_cons.mp member with rfl | later
      · exact before
      · exact Trans.trans before (above entry later)
    · by_cases here : key = k
      · subst here
        simp only [upsert, before, if_false, if_true]
        exact List.pairwise_cons.mpr ⟨above, sortedRest⟩
      · have after : k < key :=
          Decidable.byContradiction fun other =>
            here (Std.Trichotomous.trichotomous key k before other)
        simp only [upsert, before, here, if_false]
        exact List.pairwise_cons.mpr
          ⟨forall_upsert above after fun _ _ => after, ih sortedRest⟩

omit [DecidableLT κ] in
theorem lookup_of_above [Std.Irrefl (α := κ) (· < ·)] {entries : List (κ × α)}
    (above : ∀ entry ∈ entries, key < entry.1) : entries.lookup key = none := by
  rw [List.lookup_eq_none_iff]
  intro entry member
  have greater := above entry member
  simp only [bne_iff_ne]
  rintro rfl
  exact Std.Irrefl.irrefl _ greater

theorem lookup_upsert_self [Std.Irrefl (α := κ) (· < ·)]
    [Trans (α := κ) (· < ·) (· < ·) (· < ·)] {entries : List (κ × α)} (sorted : Sorted entries)
    (f : Option α → α) : (upsert key f entries).lookup key = some (f (entries.lookup key)) := by
  induction entries with
  | nil => simp [upsert]
  | cons head rest ih =>
    obtain ⟨k, a⟩ := head
    obtain ⟨above, sortedRest⟩ := List.pairwise_cons.mp sorted
    by_cases before : key < k
    · have absent : ((k, a) :: rest).lookup key = none := by
        refine lookup_of_above fun entry member => ?_
        rcases List.mem_cons.mp member with rfl | later
        · exact before
        · exact Trans.trans before (above entry later)
      simp [upsert, before, absent]
    · by_cases here : key = k
      · subst here
        simp [upsert, before]
      · simp [upsert, before, here, lookup_cons_ite, ih sortedRest]

omit [DecidableLT κ] in
/-- Entries whose keys ascend are known by what is found under each key. -/
theorem eq_of_lookup [Std.Irrefl (α := κ) (· < ·)] [Trans (α := κ) (· < ·) (· < ·) (· < ·)]
    [Std.Trichotomous (α := κ) (· < ·)] {entries entries' : List (κ × α)}
    (sorted : Sorted entries) (sorted' : Sorted entries')
    (alike : ∀ k, entries.lookup k = entries'.lookup k) : entries = entries' := by
  induction entries generalizing entries' with
  | nil =>
    cases entries' with
    | nil => rfl
    | cons entry rest =>
      obtain ⟨k, a⟩ := entry
      simpa using alike k
  | cons entry rest ih =>
    obtain ⟨k, a⟩ := entry
    obtain ⟨above, sortedRest⟩ := List.pairwise_cons.mp sorted
    cases entries' with
    | nil => simpa using alike k
    | cons entry' rest' =>
      obtain ⟨k', a'⟩ := entry'
      obtain ⟨above', sortedRest'⟩ := List.pairwise_cons.mp sorted'
      -- a first key below the other one would not be found on the other side
      have notBelow : ¬ k < k' := by
        intro below
        have absent : ((k', a') :: rest').lookup k = none := by
          refine lookup_of_above (List.forall_mem_cons.mpr ⟨below, fun entry member => ?_⟩)
          exact Trans.trans below (above' entry member)
        simpa [absent] using alike k
      have notAbove : ¬ k' < k := by
        intro below
        have absent : ((k, a) :: rest).lookup k' = none := by
          refine lookup_of_above (List.forall_mem_cons.mpr ⟨below, fun entry member => ?_⟩)
          exact Trans.trans below (above entry member)
        simpa [absent] using alike k'
      obtain rfl := Std.Trichotomous.trichotomous k k' notBelow notAbove
      have same : a = a' := by simpa using alike k
      have others : ∀ j, rest.lookup j = rest'.lookup j := by
        intro j
        by_cases here : j = k
        · subst here
          rw [lookup_of_above above, lookup_of_above above']
        · simpa [lookup_cons_ite, here] using alike j
      rw [same, ih sortedRest sortedRest' others]

omit [DecidableLT κ] in
/-- Where values know their key, those of one key are what is found under it. -/
theorem values_filter [Std.Irrefl (α := κ) (· < ·)] {f : α → κ} {entries : List (κ × α)}
    (sorted : Sorted entries) (own : ∀ entry ∈ entries, f entry.2 = entry.1) (key : κ) :
    (entries.map (·.2)).filter (fun a => f a == key) = (entries.lookup key).toList := by
  induction entries with
  | nil => rfl
  | cons head rest ih =>
    obtain ⟨k, a⟩ := head
    obtain ⟨above, sortedRest⟩ := List.pairwise_cons.mp sorted
    have others := ih sortedRest fun entry member => own entry (List.mem_cons_of_mem _ member)
    have here : f a = k := own (k, a) List.mem_cons_self
    by_cases same : k = key
    · subst same
      rw [lookup_of_above above] at others
      simpa [here] using others
    · simpa [here, same, lookup_cons_ite, Ne.symm same] using others

omit [LT κ] [DecidableLT κ] in
/-- The value that has a key is what is found under it. -/
theorem find?_values {f : α → κ} {entries : List (κ × α)}
    (own : ∀ entry ∈ entries, f entry.2 = entry.1) (key : κ) :
    (entries.map (·.2)).find? (fun a => f a == key) = entries.lookup key := by
  induction entries with
  | nil => rfl
  | cons head rest ih =>
    obtain ⟨k, a⟩ := head
    have others := ih fun entry member => own entry (List.mem_cons_of_mem _ member)
    have here : f a = k := own (k, a) List.mem_cons_self
    by_cases same : k = key
    · simp [here, same]
    · simp only [List.map_cons, lookup_cons_ite, Ne.symm same, if_false, ← others]
      simp [here, same]

end PoolIndexer.Keyed
