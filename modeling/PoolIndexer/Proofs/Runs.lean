import PoolIndexer.Runs

/-! Lists that are cut into runs. Put together, the runs are the list; each has a place for every
item but the last one, so that an item is found by its run and its place there. -/
namespace PoolIndexer

variable {α : Type} {size : Nat}

theorem runs_cons (size : Nat) (a : α) (rest : List α) :
    runs size (a :: rest) = (a :: rest.take (size - 1)) :: runs size (rest.drop (size - 1)) := by
  rw [runs]

theorem flatten_runs (size : Nat) (items : List α) : (runs size items).flatten = items := by
  induction items using runs.induct size with
  | case1 => simp [runs]
  | case2 a rest ih =>
    rw [runs, List.flatten_cons, ih, List.cons_append, List.take_append_drop]

theorem runs_flatten {lists : List (List α)} (positive : 0 < size)
    (full : ∀ l ∈ lists, l.length = size) : runs size lists.flatten = lists := by
  induction lists with
  | nil => simp [runs]
  | cons l rest ih =>
    have length := full l List.mem_cons_self
    have others := ih fun m member => full m (List.mem_cons_of_mem _ member)
    cases l with
    | nil => simp at length; omega
    | cons a tail =>
      have short : tail.length = size - 1 := by
        simp at length
        omega
      rw [List.flatten_cons, List.cons_append, runs]
      rw [List.take_append_of_le_length (by omega), List.drop_append_of_le_length (by omega)]
      rw [← short, List.take_length, List.drop_length]
      simp [others]

/-- No run is empty, and none is longer than the others may be. -/
theorem length_of_mem_runs (positive : 0 < size) {items run : List α}
    (member : run ∈ runs size items) : 0 < run.length ∧ run.length ≤ size := by
  induction items using runs.induct size with
  | case1 => simp [runs] at member
  | case2 a rest ih =>
    rw [runs_cons] at member
    rcases List.mem_cons.mp member with rfl | later
    · rw [List.length_cons, List.length_take]
      omega
    · exact ih later

/-- An item of the list is found by its run and its place in it. -/
theorem runs_place (items : List α) (run : Nat) {place : Nat} (within : place < size) :
    ((runs size items)[run]?).bind (·[place]?) = items[run * size + place]? := by
  induction items using runs.induct size generalizing run with
  | case1 => simp [runs]
  | case2 a rest ih =>
    have whole : a :: rest.take (size - 1) = (a :: rest).take size := by
      rw [← Nat.sub_add_cancel (Nat.lt_of_le_of_lt (Nat.zero_le place) within),
        List.take_succ_cons, Nat.add_sub_cancel]
    rw [runs_cons]
    cases run with
    | zero =>
      rw [List.getElem?_cons_zero, Option.bind_some, whole, List.getElem?_take_of_lt within,
        Nat.zero_mul, Nat.zero_add]
    | succ run =>
      have shift : (run + 1) * size + place = size - 1 + (run * size + place) + 1 := by
        rw [Nat.succ_mul]
        omega
      rw [List.getElem?_cons_succ, ih, List.getElem?_drop, shift, List.getElem?_cons_succ]

end PoolIndexer
