import PoolIndexer.Proofs.Indexer.Processing
import PoolIndexer.Proofs.Reserves
import PoolIndexer.Proofs.Transaction

/-! What an indexer does to the rows of reserves. Neither seeding nor a chunk leaves a row in the
store that lies above the checkpoint or has the key of another pair or time. -/
namespace PoolIndexer

variable {σ : Type} {view : σ → Store}

/-- A property of the store is not lost. -/
def World.Keeps (view : σ → Store) (P : Store → Prop) (w v : World σ) : Prop :=
  P (view w.store) → P (view v.store)

section

variable {P : Store → Prop}

instance : Std.Refl (World.Keeps view P) := ⟨fun _ => id⟩

instance : Trans (World.Keeps view P) (World.Keeps view P) (World.Keeps view P) where
  trans first second holds := second (first holds)

theorem World.Keeps.of_same {w v : World σ} (same : view v.store = view w.store) :
    World.Keeps view P w v := by
  intro holds
  rwa [same]

end

namespace Snapshot

theorem initialAmounts_rows {s : Snapshot} {pairs : List Pair} {time : Int} {row : PoolAmount}
    (member : row ∈ s.initialAmounts pairs time) : row.Keyed ∧ row.height = s.height := by
  obtain ⟨pair, _, given⟩ := List.mem_filterMap.mp member
  obtain ⟨pool, _, rfl⟩ := Option.map_eq_some_iff.mp given
  exact ⟨rfl, rfl⟩

end Snapshot

namespace Indexer

/-! ## Seeding -/

/-- The rows of reserves are as they should be, at a checkpoint. -/
structure Held (checkpoint : Nat) (s : Store) : Prop where
  stored : s.checkpoint = some checkpoint
  recorded : s.Recorded

/-- The rows that seeding inserts are as they should be. -/
theorem Held.insert {checkpoint n : Nat} {s s' : Store} {table : Table} {rows : List Json}
    (held : Held checkpoint s) (write : SeedWrite checkpoint table rows)
    (inserted : s.insert table rows = .ok (n, s')) : Held checkpoint s' := by
  have ledger : s'.ledger = s.ledger := Store.insert_ledger write.keyed inserted
  have kept : ∀ {height}, s.ledger.Reached height → s'.ledger.Reached height := by
    intro height reached
    rwa [ledger]
  refine ⟨(congrArg Ledger.checkpoint ledger).trans held.stored, ?_⟩
  cases write with
  | pairs => exact held.recorded.of_same (Store.insert_other (.inl rfl) inserted) kept
  | aprs => exact held.recorded.of_same (Store.insert_other (.inr rfl) inserted) kept
  | amounts height =>
    refine held.recorded.add _ (Store.insert_poolAmounts inserted) kept fun row new => ?_
    obtain ⟨keyed, same⟩ := Snapshot.initialAmounts_rows new
    rw [ledger, same, height]
    exact ⟨keyed, checkpoint, held.stored, Nat.le_refl _⟩

theorem held_admits (checkpoint : Nat) :
    Admits view checkpoint (World.Keeps view (Held checkpoint)) where
  same store _ := World.Keeps.of_same store
  insert write inserted _ held := held.insert write inserted

section

variable {backend : Backend σ} (mirrors : backend.Mirrors view)
include mirrors

theorem seedCheckpoint_keeps {P : Store → Prop}
    (raises : ∀ {s : Store} (height : Nat), P s → P (s.raiseCheckpoint height)) (height : Nat) :
    Task.Respects (World.Keeps view P) (Task.perform [] (backend.seedCheckpoint height)) := by
  intro w holds
  unfold Task.perform
  rcases run : backend.seedCheckpoint height w.store with ⟨e | checkpoint, s⟩
  · change P (view s)
    rwa [(mirrors.seedCheckpoint height).error run]
  · have raised := Store.backend_seedCheckpoint ((mirrors.seedCheckpoint height).ok run)
    rw [Store.seedCheckpoint_eq] at raised
    change P (view s)
    rw [← (Prod.mk.inj raised).2]
    exact raises height holds

/-- Whether it succeeds or fails, seeding leaves the rows of reserves as they should be. -/
theorem seedStorage_keeps (config : IndexerConfig) (chain : Chain) (times : SeedTimes) :
    Task.Respects (World.Keeps view Store.Recorded)
      (seedStorage config chain backend times) := by
  rw [seedStorage_eq]
  refine Task.Respects.bind (look_respects (fun same _ => World.Keeps.of_same same)
    mirrors.migrate Store.backend_migrate _) fun _ => ?_
  refine (seedCheckpoint_keeps mirrors (fun height recorded => recorded.raiseCheckpoint height)
    _).bind_ok ?_
  intro w checkpoint u seeded recorded
  -- from here on the checkpoint is known, and the rows to insert are those of its height
  have held : Held checkpoint (view u.store) := ⟨(seedCheckpoint_ok mirrors seeded).2, recorded⟩
  have refreshing := refresh_respects (held_admits checkpoint) mirrors (fun _ _ => id) config chain
  have rest := refreshing.bind fun pairs =>
    seedHistory_respects (held_admits checkpoint) mirrors config chain times pairs
  exact (rest u held).recorded

theorem seed_recorded {config : IndexerConfig} {chain : Chain} {times : SeedTimes}
    {i i' : Indexer σ} {result : Except (List String) Unit} (recorded : (view i.world.store).Recorded)
    (seeded : seed config chain backend times i = .ok (result, i')) :
    (view i'.world.store).Recorded := by
  have kept := seedStorage_keeps mirrors config chain times i.world recorded
  rcases seed_cases seeded with ⟨_, world, run, -, rfl⟩ | ⟨_, world, run, -, rfl⟩
  · simpa only [run] using kept
  · simpa only [run] using kept

end

/-! ## Chunks -/

/-- A row of reserves that a chunk writes is that of an event of its pair. -/
theorem buildChunk_rows {config : IndexerConfig} {chain : Chain} {chunk : Chunk} {checkpoint : Nat}
    {w v : World σ} {write : ChunkWrite} {row : PoolAmount}
    (built : buildChunk config chain chunk checkpoint w = (.ok write, v))
    (member : row ∈ write.poolAmounts) :
    ∃ event ∈ Tx.parseAll chunk.txs, event.touches row.pairAddress ∧
      ∃ r : Reserves, row = r.row row.pairAddress event := by
  rcases buildChunk_ok built with ⟨_, rfl⟩ | ⟨_, _, derived, _, derives, _, rfl⟩
  · cases member
  · have history : derived.poolAmounts = _ := (derive_ok derives).2
    change row ∈ derived.poolAmounts at member
    rw [history] at member
    exact poolHistory_rows member

/-- The events of a chunk lie within it if its transactions do. -/
theorem event_within {txs : List Tx} {height : Nat} (within : ∀ tx ∈ txs, tx.height ≤ height)
    {event : Event} (member : event ∈ Tx.parseAll txs) : event.height ≤ height := by
  obtain ⟨tx, among, its⟩ := Tx.mem_parseAll.mp member
  rw [(Tx.events_at its).1]
  exact within tx among

theorem process_recorded {backend : Backend σ} (mirrors : backend.Mirrors view)
    {config : IndexerConfig} {chain : Chain} {chunk : Chunk} {i i' : Indexer σ}
    {acknowledged : Bool} (recorded : (view i.world.store).Recorded)
    (within : ∀ tx ∈ chunk.txs, tx.height ≤ chunk.newHeight)
    (taken : process config chain backend chunk i = .ok (acknowledged, i')) :
    (view i'.world.store).Recorded := by
  cases acknowledged with
  | false =>
    rw [(process_refused mirrors taken).1]
    exact recorded
  | true =>
    obtain ⟨_, ⟨_, rfl⟩ | ⟨_, write, u, built, committed⟩⟩ := process_accepted mirrors taken
    · exact recorded
    · refine recorded.commit committed fun row member => ?_
      obtain ⟨event, among, _, r, same⟩ := buildChunk_rows built member
      rw [same, buildChunk_height built]
      exact ⟨r.row_keyed _ _, event_within within among⟩

end Indexer
end PoolIndexer
