/-! Stable sorting, and lists sorted by a number, seen from those elements alone that have a
property. -/
namespace PoolIndexer.Sorting

variable {α : Type}

/-- Sorting leaves elements alone that are in order already, whatever stands between them. -/
theorem filter_mergeSort {le : α → α → Bool} {p : α → Bool} {l : List α}
    (trans : ∀ a b c, le a b → le b c → le a c) (total : ∀ a b, le a b || le b a)
    (ordered : (l.filter p).Pairwise fun a b => le a b) :
    (l.mergeSort le).filter p = l.filter p := by
  have within : (l.filter p).Sublist (l.mergeSort le) :=
    List.sublist_mergeSort trans total ordered List.filter_sublist
  have chosen := within.filter p
  simp only [List.filter_filter, Bool.and_self] at chosen
  exact (chosen.eq_of_length ((List.mergeSort_perm l le).filter p).length_eq.symm).symm

/-- The least elements of a sorted list stand at its beginning. -/
theorem split_least {f : α → Int} {m : Int} {l : List α} (sorted : l.Pairwise (f · ≤ f ·))
    (least : ∀ a ∈ l, m ≤ f a) :
    l = l.filter (fun a => f a = m) ++ l.filter (fun a => ¬ f a = m) := by
  induction l with
  | nil => rfl
  | cons a rest ih =>
    rw [List.pairwise_cons] at sorted
    by_cases here : f a = m
    · have others := ih sorted.2 fun b member => least b (List.mem_cons_of_mem _ member)
      simpa [here] using others
    · have above : ∀ b ∈ rest, ¬ f b = m := by
        intro b member
        have := sorted.1 b member
        have := least a List.mem_cons_self
        omega
      have none : rest.filter (fun b => f b = m) = [] := by simpa using above
      have all : rest.filter (fun b => ¬ f b = m) = rest := by simpa using above
      simp only [List.filter_cons, here, none, all]
      simp

/-- Lists that are sorted by a number are the same if they agree on the elements of every number. -/
theorem eq_of_filters {f : α → Nat} {l l' : List α} (sorted : l.Pairwise (f · ≤ f ·))
    (sorted' : l'.Pairwise (f · ≤ f ·))
    (agree : ∀ n, l.filter (f · == n) = l'.filter (f · == n)) : l = l' := by
  induction l generalizing l' with
  | nil =>
    cases l' with
    | nil => rfl
    | cons b rest' => simpa using agree (f b)
  | cons a rest ih =>
    cases l' with
    | nil => simpa using agree (f a)
    | cons b rest' =>
      have first : b ∈ a :: rest := by
        have kept : b ∈ (a :: rest).filter (f · == f b) := by
          rw [agree]
          simp
        exact (List.mem_filter.mp kept).1
      have second : a ∈ b :: rest' := by
        have kept : a ∈ (b :: rest').filter (f · == f a) := by
          rw [← agree]
          simp
        exact (List.mem_filter.mp kept).1
      rw [List.pairwise_cons] at sorted sorted'
      have level : f b = f a := by
        apply Nat.le_antisymm
        · rcases List.mem_cons.mp second with same | later
          · simp [same]
          · exact sorted'.1 a later
        · rcases List.mem_cons.mp first with same | later
          · simp [same]
          · exact sorted.1 b later
      obtain ⟨rfl, _⟩ : a = b ∧ rest.filter (f · == f a) = rest'.filter (f · == f a) := by
        simpa [level] using agree (f a)
      congr 1
      apply ih sorted.2 sorted'.2
      intro n
      have whole := agree n
      by_cases here : f a = n
      · simpa [here] using whole
      · simpa [here] using whole

end PoolIndexer.Sorting
