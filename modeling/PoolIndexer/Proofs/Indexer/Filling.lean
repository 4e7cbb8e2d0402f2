import PoolIndexer.Proofs.Indexer.Asking
import PoolIndexer.Proofs.Insertion

/-! Seeding write by write. It raises the checkpoint, stores the pairs unless there are as many, and
fills the tables of reserves and of yields where they are empty. Wherever it stops, the writes up to
there are done and no others; on the store in memory it reaches its end whenever the chain gives the
rows that are missing and they can be stored. -/
namespace PoolIndexer

variable {σ α : Type} {view : σ → Store}

/-! ## The writes -/

/-- The rows that the tracked pairs among listed ones are stored as. -/
def pairRows (listed : List Pair) : List PairRow :=
  (reconcile listed).map fun (pair, symbols) => PairRow.ofPair pair symbols

/-- The store with the tracked pairs among listed ones; it is left alone if it has as many. -/
def Store.withPairs (s : Store) (listed : List Pair) : Store :=
  if s.pairs.length ≠ (reconcile listed).length then s.putPairs (pairRows listed) else s

/-- A table that has rows is left alone. One that has none is given rows that can be stored. -/
inductive Store.Filled [Record α] (stored : Store → List α) (make : List α → Batch)
    (given : List α → Prop) (s : Store) : Store → Prop
  | kept (filled : stored s ≠ []) : Filled stored make given s s
  | added {rows : List α} (empty : stored s = []) (had : given rows)
      (restored : Record.Restored rows) : Filled stored make given s (s.add (make rows))

namespace Indexer

/-- Stores rows in a table that has none. -/
def fill [Record α] (backend : Backend σ) (rows : Task σ (List α)) : Task σ Unit := do
  if (← Task.perform [] (backend.count (Record.table α))) = 0 then
    insertRecords backend (← rows)

/-- Computes the yields of pairs by the reserves that are stored. -/
def askAprs (config : IndexerConfig) (chain : Chain) (backend : Backend σ) (pairs : List Pair)
    (height : Nat) (time : Int) : Task σ (List PoolApr) := do
  let latest ← Task.perform [] backend.latestPoolAmounts
  poolAprs config chain pairs (Snapshot.ofHistory pairs latest height) height time

theorem fill_bind {β : Type} [Record α] (backend : Backend σ) (rows : Task σ (List α))
    (next : Unit → Task σ β) : fill backend rows >>= next = (do
      if (← Task.perform [] (backend.count (Record.table α))) = 0 then
        insertRecords backend (← rows)
      next ()) := by
  unfold fill
  rw [bind_assoc]
  congr 1
  funext count
  split
  · exact bind_assoc _ _ _
  · exact pure_bind _ _

theorem seedHistory_eq (config : IndexerConfig) (chain : Chain) (backend : Backend σ)
    (times : SeedTimes) (checkpoint : Nat) (pairs : List Pair) :
    seedHistory config chain backend times checkpoint pairs = (do
      fill backend (askAmounts chain pairs checkpoint times.reserves)
      fill backend (askAprs config chain backend pairs checkpoint times.yields)
      return checkpoint) := by
  rw [fill_bind, fill_bind]
  simp only [askAmounts, askAprs, bind_assoc, pure_bind]
  rfl

/-! ## The effect of each write -/

section

variable {backend : Backend σ} (mirrors : backend.Mirrors view) {s : Store}
  {stopped : Store → Prop} (here : stopped s)
include here

theorem askAmounts_effect (chain : Chain) (pairs : List Pair) (height : Nat) (now : Int) :
    Task.Effect view (askAmounts chain pairs height now) s (fun rows s' =>
      firstAmounts chain pairs height now = .ok rows ∧ s' = s) stopped :=
  Task.effect_unchanged (askAmounts_unchanged _ _ _ _) (askAmounts_yields _ _ _ _) here

include mirrors

/-- A table is counted, and the store left alone. -/
theorem count_effect {table : Table} {n : Nat} (counted : s.count table = .ok n) :
    Task.Effect view (Task.perform [] (backend.count table)) s (fun m s' => m = n ∧ s' = s)
      stopped := by
  refine Task.effect_perform (mirrors.count table) [] (fun {m s'} counts => ?_) here
  obtain ⟨same, rfl⟩ := Prod.mk.inj counts
  exact ⟨Except.ok.inj (same.symm.trans counted), rfl⟩

theorem fill_effect [Record α] {make : List α → Batch} (kind : Batch.Kind make)
    (faithful : Record.Faithful α) {stored : Store → List α}
    (counted : s.count (Record.table α) = .ok (stored s).length) {rows : Task σ (List α)}
    {given : List α → Prop} (gives : Task.Effect view rows s (fun r s' => given r ∧ s' = s) stopped) :
    Task.Effect view (fill backend rows) s (fun _ => s.Filled stored make given) stopped := by
  refine (count_effect mirrors here counted).bind ?_
  rintro n s ⟨rfl, rfl⟩
  split
  · rename_i empty
    refine gives.bind ?_
    rintro r s ⟨had, rfl⟩
    refine (insertRecords_effect mirrors kind faithful here).mono ?_
    rintro _ _ ⟨restored, rfl⟩
    exact .added (List.length_eq_zero_iff.mp empty) had restored
  · rename_i filled
    exact Task.effect_pure (.kept (mt List.length_eq_zero_iff.mpr filled))

theorem askAprs_effect (config : IndexerConfig) (chain : Chain) (pairs : List Pair) (height : Nat)
    (now : Int) :
    Task.Effect view (askAprs config chain backend pairs height now) s (fun rows s' =>
      firstAprs config chain pairs (Snapshot.ofHistory pairs s.latestPoolAmounts height) height now
        = .ok rows ∧ s' = s) stopped := by
  refine (Task.effect_perform mirrors.latestPoolAmounts []
    Store.backend_latestPoolAmounts here).bind ?_
  rintro _ s ⟨rfl, rfl⟩
  exact Task.effect_unchanged (poolAprs_unchanged _ _ _ _ _ _) (poolAprs_yields _ _ _ _ _ _) here

theorem storePairs_effect (config : IndexerConfig) (chain : Chain) :
    Task.Effect view (storePairs config chain backend) s (fun pairs s' => ∃ listed,
      listing chain config.factories = .ok listed ∧ pairs = trackedPairs listed ∧
        s' = s.withPairs listed) stopped := by
  refine (Task.effect_unchanged (listFactories_unchanged _ _)
    (fun _ _ _ given => listFactories_ok chain.follows_self given) here).bind ?_
  rintro listed s ⟨lists, rfl⟩
  refine (count_effect mirrors here rfl).bind ?_
  rintro n s ⟨rfl, rfl⟩
  dsimp only
  split
  · rename_i others
    refine (insertRecords_effect mirrors Batch.pairs_kind PairRow.faithful here).bind ?_
    rintro _ _ ⟨-, rfl⟩
    exact Task.effect_pure ⟨listed, lists, rfl, (if_pos others).symm⟩
  · rename_i same
    exact Task.effect_pure ⟨listed, lists, rfl, (if_neg same).symm⟩

theorem refresh_effect (config : IndexerConfig) (chain : Chain) :
    Task.Effect view (refresh config chain backend) s (fun pairs s' => ∃ listed,
      listing chain config.factories = .ok listed ∧ pairs = trackedPairs listed ∧
        s' = s.withPairs listed) stopped := by
  rw [refresh_eq]
  refine (storePairs_effect mirrors here config chain).bind ?_
  rintro _ _ ⟨listed, lists, rfl, rfl⟩
  constructor
  · intro w pairs v from' ran
    cases ran
    exact ⟨listed, lists, rfl, from'⟩
  · intro w e v _ ran
    cases ran

end

/-! ## Writes that succeed -/

section

variable {s s' : Store}

theorem count_reaches {table : Table} {n : Nat} (counted : s.count table = .ok n) :
    Task.Reaches (Task.perform [] (Store.backend.count table)) s n s := by
  have reads : Store.backend.count table s = (.ok n, s) := congrArg (·, s) counted
  exact Task.reaches_perform reads []

theorem fill_reaches [Record α] {make : List α → Batch} (kind : Batch.Kind make)
    {stored : Store → List α} (counted : s.count (Record.table α) = .ok (stored s).length)
    {rows : Task Store (List α)} {given : List α → Prop}
    (gives : ∀ {r}, given r → Task.Reaches rows s r s) (filled : s.Filled stored make given s') :
    Task.Reaches (fill Store.backend rows) s () s' := by
  refine (count_reaches counted).bind ?_
  cases filled with
  | kept filled =>
    rw [if_neg (mt List.length_eq_zero_iff.mp filled)]
    exact Task.reaches_pure _ _
  | added empty had restored =>
    rw [if_pos (List.length_eq_zero_iff.mpr empty)]
    exact (gives had).bind (insertRecords_reaches kind restored s)

theorem askAprs_reaches {config : IndexerConfig} {chain : Chain} {pairs : List Pair} {height : Nat}
    {now : Int} {rows : List PoolApr}
    (first : firstAprs config chain pairs (Snapshot.ofHistory pairs s.latestPoolAmounts height)
      height now = .ok rows) :
    Task.Reaches (askAprs config chain Store.backend pairs height now) s rows s := by
  have reads : Store.backend.latestPoolAmounts s = (.ok s.latestPoolAmounts, s) := rfl
  refine (Task.reaches_perform reads []).bind ?_
  exact (poolAprs_gives first).reaches (poolAprs_unchanged _ _ _ _ _ _) s

theorem storePairs_reaches {config : IndexerConfig} {chain : Chain} {listed : List Pair}
    (lists : listing chain config.factories = .ok listed) :
    Task.Reaches (storePairs config chain Store.backend) s (trackedPairs listed)
      (s.withPairs listed) := by
  have listing := (listFactories_gives lists).reaches (listFactories_unchanged _ _) s
  refine listing.bind ((count_reaches rfl).bind ?_)
  unfold Store.withPairs
  dsimp only
  split
  · have storing := insertRecords_reaches Batch.pairs_kind (PairRow.restored (pairRows listed)) s
    exact storing.bind (Task.reaches_pure _ _)
  · exact Task.reaches_pure _ _

theorem refresh_reaches {config : IndexerConfig} {chain : Chain} {listed : List Pair}
    (lists : listing chain config.factories = .ok listed) :
    Task.Reaches (refresh config chain Store.backend) s (trackedPairs listed)
      (s.withPairs listed) := by
  rw [refresh_eq]
  exact (storePairs_reaches lists).bind fun w from' => ⟨{ w with registry := _ }, rfl, from'⟩

end

/-! ## Seeding -/

/-- The height at which a store is seeded. -/
def seedHeight (config : IndexerConfig) (s : Store) : Nat :=
  max (s.checkpoint.getD 0) config.startHeight

/-- The store with its checkpoint raised and its pairs stored. -/
def prepared (config : IndexerConfig) (s : Store) (listed : List Pair) : Store :=
  (s.raiseCheckpoint config.startHeight).withPairs listed

/-- The table of reserves is filled from the pools at a height. -/
def FillsAmounts (chain : Chain) (listed : List Pair) (height : Nat) (now : Int) :
    Store → Store → Prop :=
  Store.Filled Store.poolAmounts .poolAmounts fun rows =>
    firstAmounts chain (trackedPairs listed) height now = .ok rows

/-- The table of yields is filled by the reserves that are stored. -/
def FillsAprs (config : IndexerConfig) (chain : Chain) (listed : List Pair) (height : Nat)
    (now : Int) (s : Store) : Store → Prop :=
  s.Filled Store.poolAprs .poolAprs fun rows =>
    firstAprs config chain (trackedPairs listed)
      (Snapshot.ofHistory (trackedPairs listed) s.latestPoolAmounts height) height now = .ok rows

section

variable (config : IndexerConfig) (chain : Chain) (times : SeedTimes) (s : Store)

/-- The stores that seeding passes through before its end. -/
inductive Begun : Store → Prop
  | untouched : Begun s
  | raised : Begun (s.raiseCheckpoint config.startHeight)
  | paired {listed : List Pair} (lists : listing chain config.factories = .ok listed) :
      Begun (prepared config s listed)
  | reserved {listed : List Pair} {u : Store} (lists : listing chain config.factories = .ok listed)
      (amounts : FillsAmounts chain listed (seedHeight config s) times.reserves
        (prepared config s listed) u) : Begun u

/-- The end of seeding, by the pairs that are listed and the store once it has reserves. -/
structure Completes (listed : List Pair) (u s' : Store) : Prop where
  lists : listing chain config.factories = .ok listed
  amounts : FillsAmounts chain listed (seedHeight config s) times.reserves
    (prepared config s listed) u
  aprs : FillsAprs config chain listed (seedHeight config s) times.yields u s'

end

variable {config : IndexerConfig} {chain : Chain} {times : SeedTimes} {s s' : Store}

/-- Seeding comes to its end, or it stops where only its first writes are done. -/
theorem seedStorage_effect {backend : Backend σ} (mirrors : backend.Mirrors view) :
    Task.Effect view (seedStorage config chain backend times) s
      (fun _ s' => ∃ listed u, Completes config chain times s listed u s')
      (Begun config chain times s) := by
  rw [seedStorage_eq]
  refine (Task.effect_perform mirrors.migrate _ Store.backend_migrate .untouched).bind ?_
  rintro _ s rfl
  refine (Task.effect_perform (mirrors.seedCheckpoint _) []
    Store.backend_seedCheckpoint .untouched).bind ?_
  intro height raised seeds
  rw [Store.seedCheckpoint_eq] at seeds
  obtain ⟨rfl, rfl⟩ := Prod.mk.inj seeds
  refine (refresh_effect mirrors .raised config chain).bind ?_
  rintro _ _ ⟨listed, lists, rfl, rfl⟩
  rw [seedHistory_eq]
  have paired : Begun config chain times s (prepared config s listed) := .paired lists
  refine (fill_effect mirrors paired Batch.poolAmounts_kind PoolAmount.faithful rfl
    (askAmounts_effect paired _ _ _ _)).bind ?_
  intro _ u amounts
  refine (fill_effect mirrors (.reserved lists amounts) Batch.poolAprs_kind PoolApr.faithful rfl
    (askAprs_effect mirrors (.reserved lists amounts) _ _ _ _ _)).bind ?_
  intro _ s' aprs
  exact Task.effect_pure ⟨listed, u, lists, amounts, aprs⟩

/-- On the store in memory nothing else can keep seeding from its end. -/
theorem seedStorage_reaches {listed : List Pair} {u : Store}
    (completes : Completes config chain times s listed u s') :
    Task.Reaches (seedStorage config chain Store.backend times) s (seedHeight config s) s' := by
  obtain ⟨lists, amounts, aprs⟩ := completes
  have migrated : Store.backend.migrate s = (.ok (), s) := rfl
  have raised : Store.backend.seedCheckpoint config.startHeight s =
      (.ok (seedHeight config s), s.raiseCheckpoint config.startHeight) := by
    simp only [Store.backend, Action.change, Store.seedCheckpoint_eq, seedHeight]
  rw [seedStorage_eq]
  refine (Task.reaches_perform migrated _).bind ((Task.reaches_perform raised []).bind ?_)
  refine (refresh_reaches lists).bind ?_
  rw [seedHistory_eq]
  refine (fill_reaches Batch.poolAmounts_kind rfl (fun first => ?_) amounts).bind
    ((fill_reaches Batch.poolAprs_kind rfl askAprs_reaches aprs).bind (Task.reaches_pure _ _))
  exact (askAmounts_gives first).reaches (askAmounts_unchanged _ _ _ _) _

end Indexer
end PoolIndexer
