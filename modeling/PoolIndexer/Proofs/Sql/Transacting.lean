import PoolIndexer.Proofs.Sql.Committing

/-! Commits on a server whose transactions take effect as a whole or not at all. A commit that is
reported took effect once; of one that fails nobody can tell. -/
namespace PoolIndexer.Sql

variable {σ : Type}

/-- What a client may rely on. The transactions that have taken effect are `history`, the oldest
first, and `opened` are the statements of the transaction under way, if there is one. A connection
may fail at any point; a commit that fails has taken effect or it has not. -/
structure Transactional (server : Server σ) (history : σ → List (List Statement))
    (opened : σ → Option (List Statement)) : Prop where
  connect : ∀ s, history (server.connect s).2 = history s
  start : ∀ {s result s'}, server.send .start s = (result, s') →
    history s' = history s ∧ (result.isSome → opened s' = some [])
  run : ∀ {s result s' statement before}, server.send (.run statement) s = (result, s') →
    opened s = some before →
    history s' = history s ∧ (result.isSome → opened s' = some (before ++ [statement]))
  commit : ∀ {s result s' statements}, server.send .commit s = (some result, s') →
    opened s = some statements → history s' = history s ++ [statements]
  lost : ∀ {s s' statements}, server.send .commit s = (none, s') → opened s = some statements →
    history s' = history s ∨ history s' = history s ++ [statements]
  rollback : ∀ s, history (server.tell .rollback s) = history s

section

variable {server : Server σ} {history : σ → List (List Statement)}
  {opened : σ → Option (List Statement)} (laws : Transactional server history opened)
include laws

theorem executeAll_history {statements before : List Statement} {s s' : σ}
    {result : Except StorageError Unit} (under : opened s = some before)
    (executed : server.executeAll statements s = (result, s')) :
    history s' = history s ∧ (result = .ok () → opened s' = some (before ++ statements)) := by
  induction statements generalizing before s with
  | nil =>
    cases executed
    simpa using under
  | cons statement rest ih =>
    rcases sent : server.send (.run statement) s with ⟨answer, u⟩
    obtain ⟨kept, grown⟩ := laws.run sent under
    rw [Server.executeAll_cons, sent] at executed
    cases answer with
    | none =>
      cases executed
      exact ⟨kept, by simp⟩
    | some rows =>
      obtain ⟨later, complete⟩ := ih (grown rfl) executed
      refine ⟨later.trans kept, fun done => ?_⟩
      rw [complete done, List.append_assoc, List.singleton_append]

/-- A transaction that is reported has taken effect once, and any other at most once. -/
theorem transact_history {statements : List Statement} {error : StorageError} {s s' : σ}
    {result : Except StorageError Unit}
    (transacted : server.transact error statements s = (result, s')) :
    (result = .ok () → history s' = history s ++ [statements]) ∧
      (history s' = history s ∨ history s' = history s ++ [statements]) := by
  unfold Server.transact Server.sendOr Server.giveUp at transacted
  rcases started : server.send .start s with ⟨answer, u⟩
  obtain ⟨kept, openedNow⟩ := laws.start started
  rw [started] at transacted
  cases answer with
  | none =>
    cases transacted
    exact ⟨by simp, .inl ((laws.rollback u).trans kept)⟩
  | some rows =>
    dsimp only at transacted
    rcases executed : server.executeAll statements u with ⟨outcome, v⟩
    obtain ⟨keptToo, complete⟩ := executeAll_history laws (openedNow rfl) executed
    have before : history v = history s := keptToo.trans kept
    rw [executed] at transacted
    cases outcome with
    | error e =>
      cases transacted
      exact ⟨by simp, .inl ((laws.rollback v).trans before)⟩
    | ok done =>
      have under : opened v = some statements := by simpa using complete rfl
      dsimp only at transacted
      rcases committed : server.send .commit v with ⟨reported, t⟩
      rw [committed] at transacted
      cases reported with
      | none =>
        cases transacted
        have either := laws.lost committed under
        rw [before] at either
        exact ⟨by simp, either⟩
      | some rows =>
        cases transacted
        have took := laws.commit committed under
        rw [before] at took
        exact ⟨fun _ => took, .inr took⟩

/-- A chunk that is committed has taken effect once, and any other at most once. -/
theorem commit_history {w : ChunkWrite} {s s' : σ} {result : Except StorageError Unit}
    (committed : server.commit w s = (result, s')) :
    (result = .ok () → ∃ batches, w.validatedBatches = .ok batches ∧
      history s' = history s ++ [Server.chunkStatements batches w.newHeight]) ∧
    (history s' = history s ∨ ∃ batches, w.validatedBatches = .ok batches ∧
      history s' = history s ++ [Server.chunkStatements batches w.newHeight]) := by
  unfold Server.commit at committed
  rcases validated : w.validatedBatches with e | batches
  · rw [validated] at committed
    cases committed
    exact ⟨by simp, .inl rfl⟩
  · rw [validated] at committed
    have kept := laws.connect s
    rcases connected : server.connect s with ⟨reached, u⟩
    rw [connected] at kept
    dsimp only at committed
    rw [Server.acquire_bind, connected] at committed
    cases reached with
    | false =>
      cases committed
      exact ⟨by simp, .inl kept⟩
    | true =>
      obtain ⟨reported, either⟩ := transact_history laws committed
      rw [kept] at reported either
      refine ⟨fun done => ⟨batches, rfl, reported done⟩, ?_⟩
      rcases either with same | took
      · exact .inl same
      · exact .inr ⟨batches, rfl, took⟩

end

/-! ## What is stored -/

/-- The rows of a table without a key, in the order in which they came: those that the
transactions which took effect have added. -/
def storedRows (history : List (List Statement)) (table : Table) : List (List Parameter) :=
  history.flatten.flatMap (addedRows table)

theorem storedRows_append (history : List (List Statement)) (statements : List Statement)
    (table : Table) :
    storedRows (history ++ [statements]) table =
      storedRows history table ++ statements.flatMap (addedRows table) := by
  simp [storedRows]

/-- The statements of a chunk add the rows of its batches. -/
theorem addedRows_chunkStatements {table : Table} (known : table ∈ allTables)
    {batches : List (Table × List Row)} (checked : ∀ batch ∈ batches, Checked batch)
    (height : Nat) :
    (Server.chunkStatements batches height).flatMap (addedRows table) =
      batchRows table batches := by
  unfold Server.chunkStatements batchRows
  rw [List.flatMap_append, List.flatMap_singleton, addedRows_raiseCheckpoint known,
    List.append_nil, List.flatMap_assoc, List.flatMap_def, List.flatMap_def]
  congr 1
  refine List.map_congr_left fun batch member => ?_
  exact addedRows_insertStatements known (checked batch member)

/-- A chunk that takes effect adds its rows to the tables without a key. -/
theorem storedRows_chunk {w : ChunkWrite} {batches : List (Table × List Row)}
    (validated : w.validatedBatches = .ok batches) {table : Table} (append : table ∈ appendTables)
    (history : List (List Statement)) :
    storedRows (history ++ [Server.chunkStatements batches w.newHeight]) table =
      storedRows history table ++ writtenRows w table := by
  rw [storedRows_append, addedRows_chunkStatements (appendTables_known table append)
    (validatedBatches_checked validated), batchRows_validated validated append]

end PoolIndexer.Sql
