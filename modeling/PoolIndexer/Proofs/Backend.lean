import PoolIndexer.Proofs.Result
import PoolIndexer.Store.Memory

/-! Backends that keep their rows in a store in memory. Whatever else such a backend holds, an
operation that succeeds does to the store what the store alone would do, and one that fails leaves
the store as it was. -/
namespace PoolIndexer

variable {σ α : Type}

/-- On what it shows of its state an action has the result and effect of another, or it fails and
leaves that alone. -/
structure Action.Mirrors (view : σ → Store) (action : Action σ α) (original : Action Store α) :
    Prop where
  ok : ∀ {s s' a}, action s = (.ok a, s') → original (view s) = (.ok a, view s')
  error : ∀ {s s' e}, action s = (.error e, s') → view s' = view s

/-- A backend whose operations mirror those of the store in memory. -/
structure Backend.Mirrors (view : σ → Store) (backend : Backend σ) : Prop where
  migrate : Action.Mirrors view backend.migrate Store.backend.migrate
  seedCheckpoint : ∀ height,
    Action.Mirrors view (backend.seedCheckpoint height) (Store.backend.seedCheckpoint height)
  insert : ∀ table rows,
    Action.Mirrors view (backend.insert table rows) (Store.backend.insert table rows)
  commit : ∀ w, Action.Mirrors view (backend.commit w) (Store.backend.commit w)
  count : ∀ table, Action.Mirrors view (backend.count table) (Store.backend.count table)
  latestPoolAmounts :
    Action.Mirrors view backend.latestPoolAmounts Store.backend.latestPoolAmounts

namespace Action

theorem read_state {f : σ → Except StorageError α} {s s' : σ} {r : Except StorageError α}
    (h : read f s = (r, s')) : s' = s := by
  cases h
  rfl

theorem change_ok {f : σ → Except StorageError (α × σ)} {s s' : σ} {a : α}
    (h : change f s = (.ok a, s')) : f s = .ok (a, s') := by
  unfold change at h
  split at h
  · rename_i changed
    cases h
    exact changed
  · simp at h

/-- A look at the store changes nothing, and a change that fails does not either. -/
theorem read_mirrors (f : Store → Except StorageError α) : Mirrors id (read f) (read f) where
  ok h := h
  error h := by
    simp only [read, Prod.mk.injEq] at h
    exact h.2.symm

theorem change_mirrors (f : Store → Except StorageError (α × Store)) :
    Mirrors id (change f) (change f) where
  ok h := h
  error {s s' e} h := by
    simp only [change] at h
    split at h
    · simp at h
    · simp only [Prod.mk.injEq] at h
      exact h.2.symm

end Action

namespace Store

variable {s s' : Store}

theorem backend_migrate {u : Unit} (migrated : backend.migrate s = (.ok u, s')) : s' = s :=
  Action.read_state (f := fun _ : Store => .ok ()) migrated

theorem backend_seedCheckpoint {height n : Nat}
    (seeded : backend.seedCheckpoint height s = (.ok n, s')) :
    s.seedCheckpoint height = (n, s') := by
  cases seeded
  rfl

theorem backend_insert {table : Table} {rows : List Json} {n : Nat}
    (inserted : backend.insert table rows s = (.ok n, s')) : s.insert table rows = .ok (n, s') :=
  Action.change_ok (f := fun s : Store => s.insert table rows) inserted

theorem backend_commit {w : ChunkWrite} {u : Unit}
    (committed : backend.commit w s = (.ok u, s')) : s.commit w = .ok s' := by
  have changed := Action.change_ok
    (f := fun s : Store => (s.commit w).map fun s => ((), s)) committed
  obtain ⟨stored, done, same⟩ := Result.map_ok.mp changed
  cases same
  exact done

theorem backend_count {table : Table} {n : Nat}
    (counted : backend.count table s = (.ok n, s')) : s' = s :=
  Action.read_state (f := fun s : Store => s.count table) counted

theorem backend_latestPoolAmounts {rows : List PoolAmount}
    (read : backend.latestPoolAmounts s = (.ok rows, s')) :
    rows = s.latestPoolAmounts ∧ s' = s := by
  cases read
  exact ⟨rfl, rfl⟩

end Store

theorem Store.backend_mirrors : Backend.Mirrors id Store.backend where
  migrate := Action.read_mirrors fun _ => .ok ()
  seedCheckpoint height := Action.change_mirrors fun s => .ok (s.seedCheckpoint height)
  insert table rows := Action.change_mirrors fun s => s.insert table rows
  commit w := Action.change_mirrors fun s => (s.commit w).map fun s => ((), s)
  count table := Action.read_mirrors fun s => s.count table
  latestPoolAmounts := Action.read_mirrors fun s => .ok s.latestPoolAmounts

namespace Journal

theorem noting_mirrors {action : Action Store α} {entry : α → Option JournalEntry}
    (itself : Action.Mirrors id action action) :
    Action.Mirrors Journal.store (noting action entry) action where
  ok {j j' a} h := by
    simp only [noting] at h
    split at h
    · rename_i run
      cases h
      exact run
    · simp at h
  error {j j' e} h := by
    simp only [noting] at h
    split at h
    · simp at h
    · rename_i run
      cases h
      exact itself.error run

theorem unnoted_mirrors {action : Action Store α} (itself : Action.Mirrors id action action) :
    Action.Mirrors Journal.store (unnoted action) action := noting_mirrors itself

theorem refusing_mirrors {condition : Journal → Bool} {action : Action Journal α}
    {original : Action Store α} (mirrors : Action.Mirrors Journal.store action original) :
    Action.Mirrors Journal.store (refusing condition action) original where
  ok {j j' a} h := by
    simp only [refusing] at h
    split at h
    · simp at h
    · exact mirrors.ok h
  error {j j' e} h := by
    simp only [refusing] at h
    split at h
    · cases h
      rfl
    · exact mirrors.error h

/-- The store with a journal mirrors the store, whatever it refuses. -/
theorem backend_mirrors : Backend.Mirrors Journal.store Journal.backend where
  migrate := refusing_mirrors (unnoted_mirrors Store.backend_mirrors.migrate)
  seedCheckpoint height := unnoted_mirrors (Store.backend_mirrors.seedCheckpoint height)
  insert table rows := noting_mirrors (Store.backend_mirrors.insert table rows)
  commit w := refusing_mirrors (noting_mirrors (Store.backend_mirrors.commit w))
  count table := unnoted_mirrors (Store.backend_mirrors.count table)
  latestPoolAmounts := unnoted_mirrors Store.backend_mirrors.latestPoolAmounts

end Journal
end PoolIndexer
