import PoolIndexer.Proofs.Indexer.Building

/-! What seeding does to a backend that mirrors the store in memory. It raises the checkpoint to
the start height and touches no other part of the ledger, whether it succeeds or fails; where it
succeeds, the registered pairs are those that the factories list. -/
namespace PoolIndexer

variable {σ : Type} {view : σ → Store}

/-- The ledger and the registered pairs are the same. -/
structure World.Settled (view : σ → Store) (w v : World σ) : Prop where
  ledger : (view v.store).ledger = (view w.store).ledger
  registry : v.registry = w.registry

/-- The ledger is the same, or its checkpoint has been raised to a height. -/
def World.Raised (view : σ → Store) (height : Nat) (w v : World σ) : Prop :=
  (view v.store).ledger = (view w.store).ledger ∨
    (view v.store).ledger = (view w.store).ledger.raise height

instance : Std.Refl (World.Settled view) := ⟨fun _ => ⟨rfl, rfl⟩⟩

instance : Trans (World.Settled view) (World.Settled view) (World.Settled view) where
  trans first second :=
    ⟨second.ledger.trans first.ledger, second.registry.trans first.registry⟩

instance {height : Nat} : Std.Refl (World.Raised view height) := ⟨fun _ => .inl rfl⟩

instance {height : Nat} :
    Trans (World.Raised view height) (World.Raised view height) (World.Raised view height) where
  trans first second := by
    unfold World.Raised at *
    rcases second with second | second <;> rcases first with first | first
    · exact .inl (second.trans first)
    · exact .inr (second.trans first)
    · exact .inr (by rw [second, first])
    · exact .inr (by rw [second, first, Ledger.raise_raise])

theorem World.Settled.of_same {w v : World σ} (store : view v.store = view w.store)
    (registry : v.registry = w.registry) : World.Settled view w v :=
  ⟨congrArg Store.ledger store, registry⟩

theorem World.Raised.reached {w v : World σ} {height h : Nat}
    (raised : World.Raised view h w v) (reached : (view w.store).ledger.Reached height) :
    (view v.store).ledger.Reached height := by
  rcases raised with same | higher
  · rwa [same]
  · rw [higher]
    exact reached.raise h

theorem World.Settled.raised {w v : World σ} {height : Nat} (same : World.Settled view w v) :
    World.Raised view height w v := .inl same.ledger

/-! ## The snapshot that reserves are seeded from -/

namespace Snapshot

theorem ofPools_height (height : Nat) (pools : List (Pair × Pool)) :
    (ofPools height pools).height = height := by
  have kept : ∀ s : Snapshot,
      (pools.foldl (fun s entry => s.insert entry.1.address entry.2) s).height = s.height := by
    induction pools with
    | nil => exact fun _ => rfl
    | cons entry rest ih => exact fun s => ih (s.insert entry.1.address entry.2)
  exact kept (empty height)

end Snapshot

namespace Indexer

/-! ## What seeding writes -/

/-- The rows that seeding inserts, at a checkpoint. -/
inductive SeedWrite (checkpoint : Nat) : Table → List Json → Prop
  | pairs (rows : List Json) : SeedWrite checkpoint PairRow.table rows
  | aprs (rows : List Json) : SeedWrite checkpoint PoolApr.table rows
  | amounts {pools : Snapshot} (height : pools.height = checkpoint) (pairs : List Pair)
      (now : Int) :
      SeedWrite checkpoint PoolAmount.table ((pools.initialAmounts pairs now).map Record.toJson)

/-- None of them is in the ledger. -/
theorem SeedWrite.keyed {checkpoint : Nat} {table : Table} {rows : List Json}
    (write : SeedWrite checkpoint table rows) : table ∈ keyedTables := by
  cases write with
  | pairs => decide
  | aprs => decide
  | amounts => decide

/-- A relation that holds where the store and the registered pairs are the same, and where rows
that seeding inserts have come to the store. -/
structure Admits (view : σ → Store) (checkpoint : Nat) (R : World σ → World σ → Prop) : Prop where
  same : ∀ {w v}, view v.store = view w.store → v.registry = w.registry → R w v
  insert : ∀ {w v table rows n}, SeedWrite checkpoint table rows →
    (view w.store).insert table rows = .ok (n, view v.store) → v.registry = w.registry → R w v

theorem settled_admits (checkpoint : Nat) : Admits view checkpoint (World.Settled view) where
  same := World.Settled.of_same
  insert write inserted registry := ⟨Store.insert_ledger write.keyed inserted, registry⟩

theorem raised_admits (checkpoint height : Nat) :
    Admits view checkpoint (World.Raised view height) where
  same store registry := (World.Settled.of_same store registry).raised
  insert write inserted registry :=
    ((settled_admits checkpoint).insert write inserted registry).raised

section

variable {R : World σ → World σ → Prop}

/-- A look at the store changes neither it nor the registered pairs. -/
theorem look_respects {α : Type} {action : Action σ α} {original : Action Store α}
    (same : ∀ {w v : World σ}, view v.store = view w.store → v.registry = w.registry → R w v)
    (mirrors : Action.Mirrors view action original)
    (looks : ∀ {s s' a}, original s = (.ok a, s') → s' = s) (circumstance : List String) :
    Task.Respects R (Task.perform circumstance action) := by
  intro w
  unfold Task.perform
  rcases h : action w.store with ⟨e | a, s⟩
  · exact same (mirrors.error h) rfl
  · exact same (looks (mirrors.ok h)) rfl

end

theorem listFactories_unchanged (chain : Chain) (factories : List String) :
    Task.Respects (World.Unchanged (σ := σ)) (listFactories chain factories) := by
  induction factories with
  | nil => exact Task.respects_pure _
  | cons factory rest ih =>
    refine (ask_unchanged _ _).bind fun answer => ?_
    exact (Task.respects_need _ _).bind fun _ => ih.bind fun _ => Task.respects_pure _

/-! ## The checkpoint -/

section

variable {backend : Backend σ} (mirrors : backend.Mirrors view)
include mirrors

/-- Raising the checkpoint gives the one that is then stored. -/
theorem seedCheckpoint_ok {height checkpoint : Nat} {w v : World σ}
    (seeded : Task.perform [] (backend.seedCheckpoint height) w = (.ok checkpoint, v)) :
    (view v.store).ledger = (view w.store).ledger.raise height ∧
      (view v.store).checkpoint = some checkpoint := by
  obtain ⟨store, performed, rfl⟩ := Task.perform_ok.mp seeded
  have raised := Store.backend_seedCheckpoint ((mirrors.seedCheckpoint height).ok performed)
  rw [Store.seedCheckpoint_eq] at raised
  obtain ⟨same, stored⟩ := Prod.mk.inj raised
  constructor
  · rw [← stored]
    exact Store.ledger_raiseCheckpoint _ _
  · rw [← stored, ← same]
    exact Store.checkpoint_raiseCheckpoint _ _

theorem seedCheckpoint_raised (height : Nat) :
    Task.Respects (World.Raised view height)
      (Task.perform [] (backend.seedCheckpoint height)) := by
  intro w
  rcases seeded : Task.perform [] (backend.seedCheckpoint height) w with ⟨e | checkpoint, v⟩
  · unfold Task.perform at seeded
    split at seeded
    · cases seeded
    · rename_i failed
      cases seeded
      exact .inl (by simp [(mirrors.seedCheckpoint height).error failed])
  · exact .inr (seedCheckpoint_ok mirrors seeded).1

end

/-! ## The pairs -/

/-- The pairs that factories list on a chain, one after the other. -/
def listing (truth : Chain) (factories : List String) : Except String (List Pair) :=
  (factories.mapM truth.factory).map List.flatten

/-- The tracked pairs among listed ones. -/
def trackedPairs (listed : List Pair) : List Pair := (reconcile listed).map (·.1)

/-- The registry of the tracked pairs among listed ones. -/
def registryOf (listed : List Pair) : List (String × Pair) :=
  Registry.ofPairs ((reconcile listed).map (·.1))

theorem listFactories_ok {truth chain : Chain} (follows : chain.Follows truth) {w v : World σ}
    {factories : List String} {listed : List Pair}
    (given : listFactories chain factories w = (.ok listed, v)) :
    listing truth factories = .ok listed := by
  induction factories generalizing w listed with
  | nil =>
    cases given
    rfl
  | cons factory rest ih =>
    obtain ⟨answer, u, asked, afterAsked⟩ := Task.bind_ok.mp given
    obtain ⟨rfl, rfl⟩ := Task.ask_ok.mp asked
    obtain ⟨pairs, u, needed, afterNeeded⟩ := Task.bind_ok.mp afterAsked
    obtain ⟨answered, rfl⟩ := Task.need_ok.mp needed
    obtain ⟨others, u, listedRest, joined⟩ := Task.bind_ok.mp afterNeeded
    cases joined
    obtain ⟨lists, mapped, rfl⟩ := Result.map_ok.mp (ih listedRest)
    refine Result.map_ok.mpr ⟨pairs :: lists, ?_, rfl⟩
    rw [List.mapM_cons]
    exact Result.bind_ok.mpr ⟨pairs, follows.factory answered,
      Result.bind_ok.mpr ⟨lists, mapped, rfl⟩⟩

/-- All of a refresh but registering: finds the tracked pairs and stores them if their number has
changed. -/
def storePairs (config : IndexerConfig) (chain : Chain) (backend : Backend σ) :
    Task σ (List Pair) := do
  let found := reconcile (← listFactories chain config.factories)
  let stored ← Task.perform [] (backend.count PairRow.table)
  if stored ≠ found.length then
    insertRecords backend (found.map fun (pair, symbols) => PairRow.ofPair pair symbols)
  return found.map (·.1)

theorem refresh_eq (config : IndexerConfig) (chain : Chain) (backend : Backend σ) :
    refresh config chain backend = (do
      let pairs ← storePairs config chain backend
      Task.register (Registry.ofPairs pairs)
      return pairs) := by
  unfold refresh storePairs
  rw [bind_assoc]
  refine bind_congr fun listed => ?_
  rw [bind_assoc]
  refine bind_congr fun stored => ?_
  dsimp only
  split
  · rw [bind_assoc]
    rfl
  · rw [pure_bind]

section

variable {config : IndexerConfig} {truth chain : Chain} (follows : chain.Follows truth)
  {backend : Backend σ}
include follows

theorem storePairs_yields :
    Task.Yields (fun pairs => ∃ listed,
      listing truth config.factories = .ok listed ∧ pairs = trackedPairs listed)
      (storePairs config chain backend) := by
  unfold storePairs
  refine Task.Yields.andThen (fun _ _ _ given => listFactories_ok follows given)
    fun listed lists => Task.Yields.bind fun stored => ?_
  have last : Task.Yields (fun pairs => ∃ listed,
      listing truth config.factories = .ok listed ∧ pairs = trackedPairs listed)
      (pure (trackedPairs listed) : Task σ _) := Task.yields_pure ⟨listed, lists, rfl⟩
  dsimp only
  split
  · exact Task.Yields.bind fun _ => last
  · exact last

/-- A refresh that succeeds gives the tracked pairs that the factories list, and registers them. -/
theorem refresh_ok {w v : World σ} {pairs : List Pair}
    (refreshed : refresh config chain backend w = (.ok pairs, v)) :
    ∃ listed, listing truth config.factories = .ok listed ∧ pairs = trackedPairs listed ∧
      v.registry = registryOf listed := by
  rw [refresh_eq] at refreshed
  obtain ⟨found, u, stored, registering⟩ := Task.bind_ok.mp refreshed
  obtain ⟨listed, lists, rfl⟩ := storePairs_yields follows stored
  obtain ⟨_, u, registered, returned⟩ := Task.bind_ok.mp registering
  cases registered
  cases returned
  exact ⟨listed, lists, rfl, rfl⟩

end

/-! ## Seeding -/

/-- The last part of seeding: yields, where there are none. -/
def seedAprs (config : IndexerConfig) (chain : Chain) (backend : Backend σ) (time : Int)
    (checkpoint : Nat) (pairs : List Pair) : Task σ Nat := do
  if (← Task.perform [] (backend.count PoolApr.table)) = 0 then
    let latest ← Task.perform [] backend.latestPoolAmounts
    let pools := Snapshot.ofHistory pairs latest checkpoint
    insertRecords backend (← poolAprs config chain pairs pools checkpoint time)
  return checkpoint

/-- What is left of seeding once the pairs are registered: reserves and yields. -/
def seedHistory (config : IndexerConfig) (chain : Chain) (backend : Backend σ) (times : SeedTimes)
    (checkpoint : Nat) (pairs : List Pair) : Task σ Nat := do
  if (← Task.perform [] (backend.count PoolAmount.table)) = 0 then
    let pools ← resolvePools chain pairs checkpoint
    insertRecords backend (pools.initialAmounts pairs times.reserves)
  seedAprs config chain backend times.yields checkpoint pairs

theorem seedStorage_eq (config : IndexerConfig) (chain : Chain) (backend : Backend σ)
    (times : SeedTimes) :
    seedStorage config chain backend times = (do
      Task.perform ["Failed to migrate storage"] backend.migrate
      let checkpoint ← Task.perform [] (backend.seedCheckpoint config.startHeight)
      let pairs ← refresh config chain backend
      seedHistory config chain backend times checkpoint pairs) := rfl

/-! Whatever admits the writes of seeding is respected by its parts. -/

section

variable {R : World σ → World σ → Prop} [Std.Refl R] [Trans R R R] {checkpoint : Nat}
  (admits : Admits view checkpoint R) {backend : Backend σ} (mirrors : backend.Mirrors view)
include admits

omit [Std.Refl R] [Trans R R R] in
theorem unchanged_respects {α : Type} {t : Task σ α}
    (unchanged : Task.Respects World.Unchanged t) : Task.Respects R t :=
  fun w => admits.same (congrArg view (unchanged w).store) (unchanged w).registry

include mirrors

omit [Std.Refl R] [Trans R R R] in
theorem count_respects (table : Table) :
    Task.Respects R (Task.perform [] (backend.count table)) :=
  look_respects admits.same (mirrors.count table) Store.backend_count _

theorem insertRecords_respects {α : Type} [Record α] {records : List α}
    (write : SeedWrite checkpoint (Record.table α) (records.map Record.toJson)) :
    Task.Respects R (insertRecords backend records) := by
  unfold insertRecords
  split
  · exact Task.respects_pure _
  · refine Task.Respects.bind (fun w => ?_) fun _ => Task.respects_pure _
    unfold Task.perform
    rcases run : backend.insert (Record.table α) (records.map Record.toJson) w.store with ⟨e | n, s⟩
    · exact admits.same ((mirrors.insert _ _).error run) rfl
    · exact admits.insert write (Store.backend_insert ((mirrors.insert _ _).ok run)) rfl

theorem storePairs_respects (config : IndexerConfig) (chain : Chain) :
    Task.Respects R (storePairs config chain backend) := by
  unfold storePairs
  refine (unchanged_respects admits (listFactories_unchanged _ _)).bind fun listed => ?_
  refine (count_respects admits mirrors _).bind fun stored => ?_
  dsimp only
  split
  · refine (insertRecords_respects admits mirrors ?_).bind fun _ => Task.respects_pure _
    exact .pairs _
  · exact Task.respects_pure _

theorem refresh_respects (registers : ∀ w registry, R w { w with registry })
    (config : IndexerConfig) (chain : Chain) : Task.Respects R (refresh config chain backend) := by
  rw [refresh_eq]
  refine (storePairs_respects admits mirrors config chain).bind fun pairs => ?_
  exact Task.Respects.bind (fun w => registers w _) fun _ => Task.respects_pure _

theorem seedAprs_respects (config : IndexerConfig) (chain : Chain) (time : Int)
    (pairs : List Pair) :
    Task.Respects R (seedAprs config chain backend time checkpoint pairs) := by
  unfold seedAprs
  refine (count_respects admits mirrors _).bind fun count => ?_
  dsimp only
  split
  · refine (look_respects admits.same mirrors.latestPoolAmounts
      (fun read => (Store.backend_latestPoolAmounts read).2) _).bind fun latest => ?_
    refine (unchanged_respects admits (poolAprs_unchanged _ _ _ _ _ _)).bind fun aprs => ?_
    refine (insertRecords_respects admits mirrors ?_).bind fun _ => Task.respects_pure _
    exact .aprs _
  · exact Task.respects_pure _

theorem seedHistory_respects (config : IndexerConfig) (chain : Chain) (times : SeedTimes)
    (pairs : List Pair) :
    Task.Respects R (seedHistory config chain backend times checkpoint pairs) := by
  have last := seedAprs_respects admits mirrors config chain times.yields pairs
  unfold seedHistory
  refine (count_respects admits mirrors _).bind fun count => ?_
  dsimp only
  split
  · refine (unchanged_respects admits (resolvePools_unchanged _ _ _)).bind_ok ?_
    intro w pools u resolved
    obtain ⟨answers, _, rfl⟩ := resolvePools_ok resolved
    refine (insertRecords_respects admits mirrors ?_).bind (fun _ => last) u
    exact .amounts (Snapshot.ofPools_height _ _) pairs times.reserves
  · exact last

end

section

variable {backend : Backend σ} (mirrors : backend.Mirrors view)
include mirrors

omit mirrors in
theorem seedAprs_yields (config : IndexerConfig) (chain : Chain) (time : Int)
    (checkpoint : Nat) (pairs : List Pair) :
    Task.Yields (· = checkpoint) (seedAprs config chain backend time checkpoint pairs) := by
  unfold seedAprs
  refine Task.Yields.bind fun count => ?_
  dsimp only
  split
  · refine Task.Yields.bind fun latest => Task.Yields.bind fun aprs => ?_
    exact Task.Yields.bind fun _ => Task.yields_pure rfl
  · exact Task.yields_pure rfl

omit mirrors in
theorem seedHistory_yields (config : IndexerConfig) (chain : Chain) (times : SeedTimes)
    (checkpoint : Nat) (pairs : List Pair) :
    Task.Yields (· = checkpoint) (seedHistory config chain backend times checkpoint pairs) := by
  have last : Task.Yields (· = checkpoint)
      (seedAprs config chain backend times.yields checkpoint pairs) :=
    seedAprs_yields config chain times.yields checkpoint pairs
  unfold seedHistory
  refine Task.Yields.bind fun count => ?_
  dsimp only
  split
  · exact Task.Yields.bind fun pools => Task.Yields.bind fun _ => last
  · exact last

theorem migrate_settled :
    Task.Respects (World.Settled view)
      (Task.perform ["Failed to migrate storage"] backend.migrate) :=
  look_respects World.Settled.of_same mirrors.migrate Store.backend_migrate _

theorem refresh_raised (config : IndexerConfig) (chain : Chain) (checkpoint : Nat) :
    Task.Respects (World.Raised view config.startHeight) (refresh config chain backend) :=
  refresh_respects (raised_admits checkpoint _) mirrors (fun _ _ => .inl rfl) config chain

/-- Whether it succeeds or fails, seeding does no more to the ledger than raise its checkpoint to
the start height. -/
theorem seedStorage_raised (config : IndexerConfig) (chain : Chain) (times : SeedTimes) :
    Task.Respects (World.Raised view config.startHeight)
      (seedStorage config chain backend times) := by
  rw [seedStorage_eq]
  refine Task.Respects.bind (fun w => (migrate_settled mirrors w).raised) fun _ => ?_
  refine (seedCheckpoint_raised mirrors config.startHeight).bind fun checkpoint => ?_
  refine (refresh_raised mirrors config chain checkpoint).bind fun pairs => ?_
  exact seedHistory_respects (raised_admits checkpoint _) mirrors config chain times pairs

/-- Seeding that succeeds gives the checkpoint that is then stored, and registers the tracked
pairs that the factories list. -/
theorem seedStorage_ok {config : IndexerConfig} {truth chain : Chain} {times : SeedTimes}
    (follows : chain.Follows truth) {w v : World σ} {checkpoint : Nat}
    (seeded : seedStorage config chain backend times w = (.ok checkpoint, v)) :
    (view v.store).ledger = (view w.store).ledger.raise config.startHeight ∧
      (view v.store).checkpoint = some checkpoint ∧
      ∃ listed, listing truth config.factories = .ok listed ∧ v.registry = registryOf listed := by
  rw [seedStorage_eq] at seeded
  obtain ⟨_, migratedTo, migrated, seeding⟩ := Task.bind_ok.mp seeded
  obtain ⟨height, raisedTo, raised, refreshing⟩ := Task.bind_ok.mp seeding
  obtain ⟨pairs, refreshedTo, refreshed, last⟩ := Task.bind_ok.mp refreshing
  have migrating := migrate_settled mirrors w
  have refreshes := refresh_raised mirrors config chain height raisedTo
  have remaining :=
    seedHistory_respects (settled_admits height) mirrors config chain times pairs refreshedTo
  rw [migrated] at migrating
  rw [refreshed] at refreshes
  rw [last] at remaining
  obtain ⟨ledger, stored⟩ := seedCheckpoint_ok mirrors raised
  obtain ⟨listed, lists, -, registry⟩ := refresh_ok follows refreshed
  rw [migrating.ledger] at ledger
  have kept : (view refreshedTo.store).ledger = (view raisedTo.store).ledger := by
    rcases refreshes with same | again
    · exact same
    · rw [again, ledger, Ledger.raise_raise]
  have same := remaining.ledger.trans kept
  have given : checkpoint = height := seedHistory_yields config chain times height pairs last
  refine ⟨same.trans ledger, ?_, listed, lists, remaining.registry.trans registry⟩
  rw [given, ← stored]
  exact congrArg Ledger.checkpoint same

end
end Indexer
end PoolIndexer
