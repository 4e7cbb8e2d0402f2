import PoolIndexer.Proofs.Keyed
import PoolIndexer.Store

/-! The rules of the tables whose rows have a key. Of rows with one key a table keeps the first one
that arrives, or else the last one; where it keeps the first, it makes no difference whether a key
is looked for among those that are taken or among the rows. -/
namespace PoolIndexer

variable {α : Type} {key : α → String}

/-- Where the elements have different keys, an element is the one that is found by its key. -/
theorem find?_of_distinct {l : List α} (distinct : (l.map key).Nodup) {a : α}
    (member : a ∈ l) : l.find? (key · == key a) = some a := by
  induction l with
  | nil => cases member
  | cons b rest ih =>
    obtain ⟨absent, distinct⟩ := List.nodup_cons.mp distinct
    rcases List.mem_cons.mp member with rfl | later
    · simp
    · have different : key b ≠ key a :=
        fun same => absent (List.mem_map.mpr ⟨a, later, same.symm⟩)
      simpa [different] using ih distinct later

/-! ## The first row of a key -/

/-- Adds a row unless one with its key is there. -/
def addNew (key : α → String) (rows : List α) (row : α) : List α :=
  if rows.any (key · == key row) then rows else rows ++ [row]

namespace KeyedRows

@[simp] theorem rows_empty : (empty : KeyedRows key).rows = [] := rfl

theorem rows_upsert (t : KeyedRows key) (row : α) :
    (t.upsert row).rows = addNew key t.rows row := by
  have agree : key row ∈ t.keys ↔ t.rows.any (key · == key row) = true := by
    simp [t.taken]
  unfold upsert addNew
  by_cases present : key row ∈ t.keys
  · simp only [dif_pos present, if_pos (agree.mp present)]
  · simp only [dif_neg present, if_neg (mt agree.mpr present)]

theorem rows_foldl_upsert (t : KeyedRows key) (rows : List α) :
    (rows.foldl upsert t).rows = rows.foldl (addNew key) t.rows := by
  induction rows generalizing t with
  | nil => rfl
  | cons row rest ih => rw [List.foldl_cons, ih, rows_upsert, List.foldl_cons]

end KeyedRows

/-- Of the rows that arrived the first one of each key, in the order of arrival. -/
structure FirstOfEach (key : α → String) (arrived rows : List α) : Prop where
  firsts : rows = arrived.eraseDupsBy fun a b => key a == key b
  distinct : (rows.map key).Nodup
  found : ∀ k, rows.find? (key · == k) = arrived.find? (key · == k)

theorem foldl_addNew (arrived old : List α) :
    arrived.foldl (addNew key) old = old ++
      (arrived.filter fun a => !old.any (key · == key a)).eraseDupsBy fun a b => key a == key b := by
  induction arrived generalizing old with
  | nil => simp [List.eraseDupsBy_nil]
  | cons row rest ih =>
    rw [List.foldl_cons, ih]
    by_cases taken : old.any (key · == key row) = true
    · simp [addNew, taken]
    · simp [addNew, taken, List.eraseDupsBy_cons, Bool.and_comm, BEq.comm (a := key row),
        ← Bool.beq_eq_decide_eq]

theorem foldl_addNew_nil (arrived : List α) :
    arrived.foldl (addNew key) [] = arrived.eraseDupsBy fun a b => key a == key b := by
  have free : (arrived.filter fun a => !([] : List α).any (key · == key a)) = arrived :=
    List.filter_eq_self.mpr fun _ _ => rfl
  rw [foldl_addNew, free, List.nil_append]

theorem find?_addNew (old : List α) (row : α) (k : String) :
    (addNew key old row).find? (key · == k) =
      (old.find? (key · == k)).or ([row].find? (key · == k)) := by
  by_cases taken : old.any (key · == key row) = true
  · rw [addNew, if_pos taken]
    by_cases here : key row = k
    · subst here
      have there : (old.find? (key · == key row)).isSome = true := by simpa using taken
      rw [Option.or_of_isSome there]
    · simp [here]
  · rw [addNew, if_neg taken, List.find?_append]

theorem find?_foldl_addNew (arrived old : List α) (k : String) :
    (arrived.foldl (addNew key) old).find? (key · == k) =
      (old.find? (key · == k)).or (arrived.find? (key · == k)) := by
  induction arrived generalizing old with
  | nil => simp
  | cons row rest ih =>
    rw [List.foldl_cons, ih, find?_addNew, Option.or_assoc, ← List.find?_append,
      List.singleton_append]

/-- A table of rows with keys has the first row of each. -/
theorem KeyedRows.firstOfEach (arrived : List α) :
    FirstOfEach key arrived (arrived.foldl upsert (empty : KeyedRows key)).rows where
  firsts := (rows_foldl_upsert _ _).trans (foldl_addNew_nil arrived)
  distinct := KeyedRows.distinct _
  found k := by
    rw [rows_foldl_upsert, find?_foldl_addNew]
    simp

/-- A row that arrived has the key of one that is there, and that arrived too. -/
theorem FirstOfEach.exists_row {arrived rows : List α} (firsts : FirstOfEach key arrived rows)
    {row : α} (member : row ∈ arrived) : ∃ first ∈ rows, first ∈ arrived ∧ key first = key row := by
  have present : (arrived.find? (key · == key row)).isSome := by
    rw [List.find?_isSome]
    exact ⟨row, member, by simp⟩
  obtain ⟨first, found⟩ := Option.isSome_iff_exists.mp present
  have kept : rows.find? (key · == key row) = some first := by rw [firsts.found, found]
  refine ⟨first, List.mem_of_find?_eq_some kept, List.mem_of_find?_eq_some found, ?_⟩
  simpa using List.find?_some kept

/-! ## The last row of a key -/

/-- Of the rows that arrived the last one of each key, in the order of keys. -/
structure LastOfEach (key : α → String) (arrived rows : List α) : Prop where
  ascending : (rows.map key).Pairwise (· < ·)
  found : ∀ k, rows.find? (key · == k) = arrived.reverse.find? (key · == k)

/-- Puts a row in the place of its key. -/
def putLast (key : α → String) (entries : List (String × α)) (row : α) : List (String × α) :=
  Keyed.insert (key row) row entries

/-- Entries in the order of the keys that their rows have. -/
structure InKeyOrder (key : α → String) (entries : List (String × α)) : Prop where
  sorted : Keyed.Sorted entries
  own : ∀ entry ∈ entries, key entry.2 = entry.1

theorem InKeyOrder.putLast {entries : List (String × α)} (ordered : InKeyOrder key entries)
    (row : α) : InKeyOrder key (putLast key entries row) where
  sorted := Keyed.sorted_upsert ordered.sorted _
  own := Keyed.forall_upsert ordered.own rfl fun _ _ => rfl

theorem InKeyOrder.foldl {entries : List (String × α)} (ordered : InKeyOrder key entries)
    (arrived : List α) : InKeyOrder key (arrived.foldl (PoolIndexer.putLast key) entries) := by
  induction arrived generalizing entries with
  | nil => exact ordered
  | cons row rest ih => exact ih (ordered.putLast row)

theorem lookup_foldl_putLast (arrived : List α) (entries : List (String × α)) (k : String) :
    (arrived.foldl (putLast key) entries).lookup k =
      (arrived.reverse.find? (key · == k)).or (entries.lookup k) := by
  induction arrived generalizing entries with
  | nil => simp
  | cons row rest ih =>
    rw [List.foldl_cons, ih, List.reverse_cons, List.find?_append, Option.or_assoc]
    by_cases here : key row = k
    · subst here
      rw [putLast, Keyed.lookup_insert_self]
      simp
    · have there : (putLast key entries row).lookup k = entries.lookup k :=
        Keyed.lookup_upsert_ne (Ne.symm here) _ entries
      simp [there, here]

/-- Rows that have been put in their places are the same when they are put there again. -/
theorem foldl_putLast_again (arrived : List α) :
    arrived.foldl (putLast key) (arrived.foldl (putLast key) []) =
      arrived.foldl (putLast key) [] := by
  have once : InKeyOrder key (arrived.foldl (putLast key) []) :=
    InKeyOrder.foldl ⟨List.Pairwise.nil, by simp⟩ arrived
  refine Keyed.eq_of_lookup (once.foldl arrived).sorted once.sorted fun k => ?_
  simp [lookup_foldl_putLast]

theorem lastOfEach_foldl (arrived : List α) :
    LastOfEach key arrived ((arrived.foldl (putLast key) []).map (·.2)) := by
  have ordered : InKeyOrder key (arrived.foldl (putLast key) []) :=
    InKeyOrder.foldl ⟨List.Pairwise.nil, by simp⟩ arrived
  have keys : ((arrived.foldl (putLast key) []).map (·.2)).map key =
      (arrived.foldl (putLast key) []).map (·.1) := by
    rw [List.map_map]
    exact List.map_congr_left ordered.own
  constructor
  · rw [keys]
    exact List.pairwise_map.mpr ordered.sorted
  · intro k
    rw [Keyed.find?_values ordered.own, lookup_foldl_putLast]
    simp

end PoolIndexer
