import PoolIndexer.Proofs.Effect
import PoolIndexer.Proofs.PoolAmount
import PoolIndexer.Proofs.WritePaths

/-! What an insertion adds. The rows that a store takes are the records they were made of, and what
decides whether it takes them is in the records alone. -/
namespace PoolIndexer

/-! ## Rows that are read back -/

theorem PairRow.readsBack (r : PairRow) : Record.ReadsBack r := by
  change ofDocument? r.toJson.toDocument = some r
  unfold ofDocument? toJson
  rw [Document.fields?_own]
  · simp
  · rfl
  · decide

theorem PairRow.faithful : Record.Faithful PairRow := fun {r _} read =>
  Option.some.inj (read.symm.trans r.readsBack)

theorem PairRow.validateRow_passes (r : PairRow) (index : Nat) :
    (∃ cells, table.validateRow index r.toJson = .ok cells) ↔ True := by
  unfold toJson
  rw [Table.validateRow_fields rfl (by decide)]
  simp [table]

/-- Every pair can be stored. -/
theorem PairRow.restored (rows : List PairRow) : Record.Restored rows :=
  Record.restored validateRow_passes (fun _ _ => trivial) fun r _ _ => r.readsBack

/-- A yield that is not finite is stored as nothing, and is not read back. -/
theorem Document.real?_realJson_eq {x y : Binary64}
    (read : (realJson x).toDocument.real? = some y) : y = x := by
  unfold realJson at read
  split at read
  · exact (Option.some.inj read).symm
  · cases read

theorem PoolApr.faithful : Record.Faithful PoolApr := by
  intro r r' read
  change ofDocument? r.toJson.toDocument = some r' at read
  unfold ofDocument? toJson at read
  rw [Document.fields?_own] at read
  · simp only [List.map_cons, List.map_nil, Document.amount?_amountJson, Document.text?_str,
      Option.pure_def, Option.bind_eq_bind, Option.bind_some] at read
    obtain ⟨apr, yielded, counting⟩ := Option.bind_eq_some_iff.mp read
    obtain ⟨height, counted, timing⟩ := Option.bind_eq_some_iff.mp counting
    obtain ⟨time, timed, same⟩ := Option.bind_eq_some_iff.mp timing
    cases same
    rw [Document.real?_realJson_eq yielded, Document.word?_int counted, Document.int64?_int timed]
  · rfl
  · decide

/-! ## Insertions -/

section

variable {α : Type} [Record α] {records : List α} {make : List α → Batch}

/-- A store takes the records that can be restored, and adds them. -/
theorem Store.insert_iff (kind : Batch.Kind make) (faithful : Record.Faithful α) {s s' : Store} :
    (∃ n, s.insert (Record.table α) (records.map Record.toJson) = .ok (n, s')) ↔
      Record.Restored records ∧ s' = s.add (make records) := by
  constructor
  · rintro ⟨n, inserted⟩
    obtain ⟨read, decoded, added⟩ := kind.insert_ok inserted
    obtain ⟨same, readBack⟩ := Batch.decode_faithful faithful decoded
    subst read
    have checked : ∃ cells, Record.rows records = .ok cells := by
      unfold insert at inserted
      split at inserted
      · cases inserted
      · exact ⟨_, ‹_›⟩
    exact ⟨⟨checked, readBack⟩, added⟩
  · rintro ⟨restored, rfl⟩
    exact ⟨_, Store.insert_restored kind restored s⟩

theorem Record.restored_nil : Restored ([] : List α) := ⟨⟨[], rfl⟩, by simp⟩

namespace Indexer

/-- Records are all added, or none of them is. -/
theorem insertRecords_effect {σ : Type} {view : σ → Store} {backend : Backend σ}
    (mirrors : backend.Mirrors view) (kind : Batch.Kind make) (faithful : Record.Faithful α)
    {s : Store} {stopped : Store → Prop} (here : stopped s) :
    Task.Effect view (insertRecords backend records) s
      (fun _ s' => Record.Restored records ∧ s' = s.add (make records)) stopped := by
  cases records with
  | nil => exact Task.effect_pure ⟨Record.restored_nil, (kind.add_nil s).symm⟩
  | cons r rest =>
    refine Task.Effect.bind (Task.effect_perform (mirrors.insert _ _) []
      (fun inserted => ?_) here) fun added => Task.effect_pure added
    exact (Store.insert_iff kind faithful).mp ⟨_, Store.backend_insert inserted⟩

/-- Records that cannot be restored are refused, and nothing is done. -/
theorem insertRecords_refused (kind : Batch.Kind make) (faithful : Record.Faithful α)
    (refused : ¬ Record.Restored records) (v : World Store) :
    ∃ e, insertRecords Store.backend records v = (.error e, v) := by
  cases records with
  | nil => exact absurd Record.restored_nil refused
  | cons r rest =>
    rcases inserted : v.store.insert (Record.table α) ((r :: rest).map Record.toJson)
      with e | ⟨n, s'⟩
    · have acted : Store.backend.insert (Record.table α) ((r :: rest).map Record.toJson) v.store =
          (.error e, v.store) := by
        simp only [Store.backend, Action.change, inserted]
      refine ⟨.failed ([] ++ [e.message]), ?_⟩
      rw [insertRecords, Task.bind_apply, Task.perform, acted]
      simp
    · exact absurd ((Store.insert_iff kind faithful).mp ⟨n, inserted⟩).1 refused

theorem insertRecords_reaches (kind : Batch.Kind make) (restored : Record.Restored records)
    (s : Store) :
    Task.Reaches (insertRecords Store.backend records) s () (s.add (make records)) := by
  rintro w rfl
  exact ⟨_, insertRecords_restored kind restored w, rfl⟩

end Indexer
end
end PoolIndexer
