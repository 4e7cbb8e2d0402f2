import Mathlib.Data.List.Induction

/-! Each element of a list once, in the order in which they are first met. -/
namespace PoolIndexer

variable {α β : Type} [BEq α] [LawfulBEq α] [BEq β] [LawfulBEq β]

theorem eraseDups_concat (l : List α) (a : α) :
    (l ++ [a]).eraseDups = if a ∈ l then l.eraseDups else l.eraseDups ++ [a] := by
  rw [List.eraseDups_append]
  by_cases present : a ∈ l
  · simp [List.removeAll, present]
  · simp [List.removeAll, present, List.eraseDups_cons]

theorem eraseDups_sublist (l : List α) : l.eraseDups.Sublist l := by
  induction l using List.reverseRecOn with
  | nil => exact List.Sublist.refl _
  | append_singleton l a ih =>
    rw [eraseDups_concat]
    split
    · exact ih.trans (List.sublist_append_left l [a])
    · exact ih.append (List.Sublist.refl _)

/-- Elements may be renamed as long as different ones keep different names. -/
theorem eraseDups_map {f : α → β} {l : List α}
    (apart : ∀ a ∈ l, ∀ b ∈ l, f a = f b → a = b) : (l.map f).eraseDups = l.eraseDups.map f := by
  induction l using List.reverseRecOn with
  | nil => rfl
  | append_singleton l a ih =>
    have before := ih fun b among c among' =>
      apart b (List.mem_append_left _ among) c (List.mem_append_left _ among')
    have renamed : f a ∈ l.map f ↔ a ∈ l := by
      rw [List.mem_map]
      constructor
      · rintro ⟨b, among, same⟩
        have equal := apart b (List.mem_append_left _ among) a (by simp) same
        rwa [← equal]
      · exact fun among => ⟨a, among, rfl⟩
    rw [List.map_append, List.map_singleton, eraseDups_concat, eraseDups_concat, before]
    by_cases present : a ∈ l
    · simp only [renamed, present, if_true]
    · simp only [renamed, present, if_false, List.map_append, List.map_singleton]

end PoolIndexer
