import PoolIndexer.Proofs.Indexer.Recording
import PoolIndexer.Proofs.Indexer.Restarting
import PoolIndexer.Proofs.ReplayedBalances
import PoolIndexer.Proofs.RowKey

/-! What becomes of the rows that indexers write to a store with a journal. Every row of reserves
and of yields has the key of its content, so a row that a table does not take is the repeat of one
that says the same. -/
namespace PoolIndexer

/-! ## Calls whose rows have their keys -/

/-- The rows of reserves and of yields that a call brings have the keys of what they say. -/
structure Call.Keyed (c : Call) : Prop where
  amounts : ∀ r ∈ c.arrivals.poolAmounts, r.Keyed
  aprs : ∀ r ∈ c.arrivals.poolAprs, r.Keyed ∧ r.Listed

namespace Record

variable {α : Type} [Record α] {P : α → Prop}

theorem forall_other {table : Table} {rows : List Json}
    (other : table.name ≠ (Record.table α).name) : ∀ r ∈ (inTable table rows : List α), P r := by
  simp [inTable, other]

/-- Of the stored forms of records no other records are read. -/
theorem forall_own (faithful : Record.Faithful α) {records : List α} (all : ∀ r ∈ records, P r) :
    ∀ r ∈ (inTable (Record.table α) (records.map toJson) : List α), P r := by
  intro r member
  rw [inTable, if_pos rfl] at member
  cases read : (records.map toJson).mapM (ofJson? (α := α)) with
  | none => simp [read] at member
  | some records' =>
    have decoded : Batch.decode (records.map toJson) = .ok records' := by rw [Batch.decode, read]
    rw [read, Option.getD_some, (Batch.decode_faithful faithful decoded).1] at member
    exact all r member

end Record

namespace Call.Keyed

theorem insert {table : Table} {rows : List Json}
    (amounts : ∀ r ∈ (Record.inTable table rows : List PoolAmount), r.Keyed)
    (aprs : ∀ r ∈ (Record.inTable table rows : List PoolApr), r.Keyed ∧ r.Listed) :
    (Call.insert table rows).Keyed := ⟨amounts, aprs⟩

theorem pairs (rows : List Json) : (Call.insert PairRow.table rows).Keyed :=
  insert (Record.forall_other (by decide)) (Record.forall_other (by decide))

theorem poolAmounts {rows : List PoolAmount} (keyed : ∀ r ∈ rows, r.Keyed) :
    (Call.insert PoolAmount.table (rows.map Record.toJson)).Keyed :=
  insert (Record.forall_own PoolAmount.faithful keyed) (Record.forall_other (by decide))

theorem poolAprs {rows : List PoolApr} (keyed : ∀ r ∈ rows, r.Keyed ∧ r.Listed) :
    (Call.insert PoolApr.table (rows.map Record.toJson)).Keyed :=
  insert (Record.forall_other (by decide)) (Record.forall_own PoolApr.faithful keyed)

end Call.Keyed

/-! ## Journals -/

/-- The call that an entry is the note of. -/
def JournalEntry.call : JournalEntry → Call
  | .rows table cells _ => .insert table cells
  | .chunk write => .commit write

namespace Journal

variable {α : Type}

/-- What the noted writes brought, the first one first. -/
def written (j : Journal) : Arrivals := .ofCalls (j.entries.reverse.map (·.call))

/-- The tables of reserves and of yields have taken what was written, and all of it has its
keys. -/
structure Kept (j : Journal) : Prop where
  amounts : j.store.keyedAmounts = j.written.poolAmounts.foldl KeyedRows.upsert .empty
  aprs : j.store.keyedAprs = j.written.poolAprs.foldl KeyedRows.upsert .empty
  keyed : ∀ entry ∈ j.entries, entry.call.Keyed

theorem Kept.of_same {j j' : Journal} (kept : j.Kept)
    (amounts : j'.store.keyedAmounts = j.store.keyedAmounts)
    (aprs : j'.store.keyedAprs = j.store.keyedAprs) (entries : j'.entries = j.entries) :
    j'.Kept := by
  have same : j'.written = j.written := by rw [written, entries, written]
  refine ⟨?_, ?_, ?_⟩
  · rw [amounts, same, kept.amounts]
  · rw [aprs, same, kept.aprs]
  · rw [entries]
    exact kept.keyed

/-- The journal with one more note, and the store after the write. -/
def noted (j : Journal) (entry : JournalEntry) (store : Store) : Journal :=
  { j with store, entries := entry :: j.entries }

theorem written_noted (j : Journal) (entry : JournalEntry) (store : Store) :
    (j.noted entry store).written.poolAmounts =
        j.written.poolAmounts ++ entry.call.arrivals.poolAmounts ∧
      (j.noted entry store).written.poolAprs =
        j.written.poolAprs ++ entry.call.arrivals.poolAprs := by
  simp [written, noted, Arrivals.ofCalls]

/-- A write that succeeds comes to the tables and to the journal. -/
theorem Kept.noted {j : Journal} (kept : j.Kept) {entry : JournalEntry} {store : Store}
    (made : entry.call.action j.store = (.ok (), store)) (keyed : entry.call.Keyed) :
    (j.noted entry store).Kept := by
  obtain rfl := Call.action_ok made
  obtain ⟨amounts, aprs⟩ := j.written_noted entry (j.store.receive entry.call.arrivals)
  refine ⟨?_, ?_, List.forall_mem_cons.mpr ⟨keyed, kept.keyed⟩⟩
  · rw [amounts, List.foldl_append, ← kept.amounts]
    rfl
  · rw [aprs, List.foldl_append, ← kept.aprs]
    rfl

/-! ## Actions -/

/-- Whatever an action comes to, a journal that is kept stays so. -/
def Keeps (action : Action Journal α) : Prop := ∀ j : Journal, j.Kept → (action j).2.Kept

theorem keeps_unnoted {action : Action Store α}
    (same : ∀ s, (action s).2.keyedAmounts = s.keyedAmounts ∧
      (action s).2.keyedAprs = s.keyedAprs) : Keeps (unnoted action) := by
  intro j kept
  obtain ⟨amounts, aprs⟩ := same j.store
  unfold unnoted noting
  rcases run : action j.store with ⟨e | a, s⟩
  all_goals
    rw [run] at amounts aprs
    exact kept.of_same amounts aprs rfl

theorem keeps_noting {action : Action Store α} {entry : α → JournalEntry}
    (keyed : ∀ a, (entry a).call.Keyed)
    (made : ∀ {s s' a}, action s = (.ok a, s') → (entry a).call.action s = (.ok (), s'))
    (failed : ∀ {s s' e}, action s = (.error e, s') → s' = s) :
    Keeps (noting action fun a => some (entry a)) := by
  intro j kept
  unfold noting
  rcases run : action j.store with ⟨e | a, s⟩
  · exact kept.of_same (by rw [failed run]) (by rw [failed run]) rfl
  · exact kept.noted (made run) (keyed a)

theorem keeps_refusing {condition : Journal → Bool} {action : Action Journal α}
    (keeps : Keeps action) : Keeps (refusing condition action) := by
  intro j kept
  unfold refusing
  split
  · exact kept
  · exact keeps j kept

theorem keeps_insert {table : Table} {rows : List Json} (keyed : (Call.insert table rows).Keyed) :
    Keeps (backend.insert table rows) := by
  refine keeps_noting (fun _ => keyed) (fun {s s' n} inserted => ?_) ?_
  · change (Store.backend.insert table rows).void s = (.ok (), s')
    rw [Action.void, inserted]
    rfl
  · exact (Store.backend_mirrors.insert table rows).error

theorem keeps_commit {write : ChunkWrite} (keyed : (Call.commit write).Keyed) :
    Keeps (backend.commit write) := by
  refine keeps_refusing (keeps_noting (fun _ => keyed) (fun {s s' u} committed => ?_) ?_)
  · exact committed
  · exact (Store.backend_mirrors.commit write).error

theorem keeps_seedCheckpoint (height : Nat) : Keeps (backend.seedCheckpoint height) := by
  refine keeps_unnoted fun s => ?_
  change (s.seedCheckpoint height).2.keyedAmounts = _ ∧ (s.seedCheckpoint height).2.keyedAprs = _
  rw [Store.seedCheckpoint_eq, Store.raiseCheckpoint_eq]
  exact ⟨rfl, rfl⟩

theorem keeps_migrate : Keeps backend.migrate := keeps_refusing (keeps_unnoted fun _ => ⟨rfl, rfl⟩)

theorem keeps_count (table : Table) : Keeps (backend.count table) :=
  keeps_unnoted fun _ => ⟨rfl, rfl⟩

theorem keeps_latestPoolAmounts : Keeps backend.latestPoolAmounts :=
  keeps_unnoted fun _ => ⟨rfl, rfl⟩

end Journal

/-! ## Indexers -/

/-- A journal that is kept stays so. -/
def World.StaysKept (w v : World Journal) : Prop := w.store.Kept → v.store.Kept

instance : Std.Refl World.StaysKept := ⟨fun _ => id⟩

instance : Trans World.StaysKept World.StaysKept World.StaysKept where
  trans first second kept := second (first kept)

namespace Indexer

open Journal (Keeps)

variable {α : Type} {config : IndexerConfig} {chain : Chain}

theorem unchanged_keeps {t : Task Journal α} (unchanged : Task.Respects World.Unchanged t) :
    Task.Respects World.StaysKept t := by
  intro w kept
  rw [(unchanged w).store]
  exact kept

theorem perform_keeps {action : Action Journal α} (keeps : Keeps action)
    (circumstance : List String) :
    Task.Respects World.StaysKept (Task.perform circumstance action) := by
  intro w kept
  have after := keeps w.store kept
  unfold Task.perform
  rcases run : action w.store with ⟨e | a, s⟩
  all_goals
    rw [run] at after
    exact after

theorem insertRecords_keeps [Record α] {records : List α}
    (keyed : (Call.insert (Record.table α) (records.map Record.toJson)).Keyed) :
    Task.Respects World.StaysKept (insertRecords Journal.backend records) := by
  unfold insertRecords
  split
  · exact Task.respects_pure _
  · exact (perform_keeps (Journal.keeps_insert keyed) _).bind fun _ => Task.respects_pure _

theorem fill_keeps [Record α] {rows : Task Journal (List α)}
    (asks : Task.Respects World.StaysKept rows)
    (keyed : Task.Yields (fun records =>
      (Call.insert (Record.table α) (records.map Record.toJson)).Keyed) rows) :
    Task.Respects World.StaysKept (fill Journal.backend rows) := by
  unfold fill
  refine (perform_keeps (Journal.keeps_count _) _).bind fun count => ?_
  split
  · exact asks.bind_ok fun {_ _ u} asked => insertRecords_keeps (keyed asked) u
  · exact Task.respects_pure _

theorem refresh_keeps (config : IndexerConfig) (chain : Chain) :
    Task.Respects World.StaysKept (refresh config chain Journal.backend) := by
  rw [refresh_eq]
  refine Task.Respects.bind ?_ fun pairs =>
    Task.Respects.bind (fun w => id) fun _ => Task.respects_pure _
  unfold storePairs
  refine (unchanged_keeps (listFactories_unchanged _ _)).bind fun listed => ?_
  refine (perform_keeps (Journal.keeps_count _) _).bind fun stored => ?_
  dsimp only
  split
  · exact (insertRecords_keeps (.pairs _)).bind fun _ => Task.respects_pure _
  · exact Task.respects_pure _

theorem askAmounts_keyed (chain : Chain) (pairs : List Pair) (height : Nat) (time : Int) :
    Task.Yields (fun rows => (Call.insert PoolAmount.table (rows.map Record.toJson)).Keyed)
      (askAmounts chain pairs height time : Task Journal _) := by
  intro w rows v asked
  have first := askAmounts_yields chain pairs height time asked
  exact .poolAmounts fun r member => ((firstAmounts_stamped time first).2 r member).1

theorem firstAprs_keyed {pairs : List Pair} {pools : Snapshot} {height : Nat} {time : Int}
    {rows : List PoolApr} (first : firstAprs config chain pairs pools height time = .ok rows) :
    ∀ r ∈ rows, r.Keyed ∧ r.Listed := by
  intro r member
  refine ⟨((firstAprs_stamped time first).2 r member).1, ?_⟩
  unfold firstAprs at first
  split at first
  · cases first
    cases member
  · obtain ⟨book, -, yielded⟩ := Result.bind_ok.mp first
    obtain ⟨input, -, made⟩ := Result.mem_mapM yielded member
    exact ⟨input.rewardsPerSecond, AprInput.row_rewards made⟩

theorem askAprs_keyed (config : IndexerConfig) (chain : Chain) (pairs : List Pair) (height : Nat)
    (time : Int) :
    Task.Yields (fun rows => (Call.insert PoolApr.table (rows.map Record.toJson)).Keyed)
      (askAprs config chain Journal.backend pairs height time) := by
  intro w rows v asked
  obtain ⟨latest, u, -, yielding⟩ := Task.bind_ok.mp asked
  exact .poolAprs (firstAprs_keyed (poolAprs_yields _ _ _ _ _ _ yielding))

/-- Whether it succeeds or fails, seeding writes rows with their keys and nothing else to the
tables of reserves and of yields. -/
theorem seedStorage_journaled (config : IndexerConfig) (chain : Chain) (times : SeedTimes) :
    Task.Respects World.StaysKept (seedStorage config chain Journal.backend times) := by
  rw [seedStorage_eq]
  refine (perform_keeps Journal.keeps_migrate _).bind fun _ => ?_
  refine (perform_keeps (Journal.keeps_seedCheckpoint _) _).bind fun checkpoint => ?_
  refine (refresh_keeps config chain).bind fun pairs => ?_
  rw [seedHistory_eq]
  refine (fill_keeps (unchanged_keeps (askAmounts_unchanged _ _ _ _))
    (askAmounts_keyed _ _ _ _)).bind fun _ => ?_
  refine (fill_keeps ?_ (askAprs_keyed _ _ _ _ _)).bind fun _ => Task.respects_pure _
  exact (perform_keeps Journal.keeps_latestPoolAmounts _).bind fun latest =>
    unchanged_keeps (poolAprs_unchanged _ _ _ _ _ _)

theorem buildChunk_keyed {chunk : Chunk} {checkpoint : Nat} {w v : World Journal}
    {write : ChunkWrite} (built : buildChunk config chain chunk checkpoint w = (.ok write, v)) :
    (Call.commit write).Keyed where
  amounts r member := by
    obtain ⟨event, -, -, reserves, same⟩ := buildChunk_rows built member
    rw [same]
    exact reserves.row_keyed _ _
  aprs := by
    rcases buildChunk_completed built with ⟨-, rfl⟩ | ⟨-, _, _, -, -, -, u, yielded⟩
    · intro r member
      cases member
    · exact firstAprs_keyed (poolAprs_yields _ _ _ _ _ _ yielded)

/-- And so does a chunk. -/
theorem indexChunk_journaled (config : IndexerConfig) (chain : Chain) (chunk : Chunk)
    (checkpoint : Nat) :
    Task.Respects World.StaysKept (indexChunk config chain Journal.backend chunk checkpoint) := by
  refine (unchanged_keeps (buildChunk_unchanged _ _ _ _)).bind_ok fun {w write u} built => ?_
  exact perform_keeps (Journal.keeps_commit (buildChunk_keyed built)) _ u

end Indexer

namespace Journal

/-- The journals that indexers make of the empty one, whatever the chain answers them and wherever
their work breaks off. Whether migrations and commits are refused may change at any time. -/
inductive Reached : Journal → Prop
  | empty : Reached {}
  | refuse {j : Journal} (before : Reached j) (refusesMigration refusesCommits : Bool) :
      Reached { j with refusesMigration, refusesCommits }
  | seed {w : World Journal} (before : Reached w.store) (config : IndexerConfig) (chain : Chain)
      (times : Indexer.SeedTimes) :
      Reached (Indexer.seedStorage config chain backend times w).2.store
  | index {w : World Journal} (before : Reached w.store) (config : IndexerConfig) (chain : Chain)
      (chunk : Chunk) (checkpoint : Nat) :
      Reached (Indexer.indexChunk config chain backend chunk checkpoint w).2.store

theorem Reached.kept {j : Journal} (reached : j.Reached) : j.Kept := by
  induction reached with
  | empty => exact ⟨rfl, rfl, by simp⟩
  | refuse before _ _ ih => exact ih.of_same rfl rfl rfl
  | @seed w before config chain times ih =>
    exact Indexer.seedStorage_journaled config chain times w ih
  | @index w before config chain chunk checkpoint ih =>
    exact Indexer.indexChunk_journaled config chain chunk checkpoint w ih

/-- An indexer that is seeded leaves such a journal, whether it is at work then or has failed. -/
theorem Reached.of_seed {config : IndexerConfig} {chain : Chain} {times : Indexer.SeedTimes}
    {i i' : Indexer Journal} {result : Except (List String) Unit} (before : i.world.store.Reached)
    (seeded : Indexer.seed config chain backend times i = .ok (result, i')) :
    i'.world.store.Reached := by
  have reached := before.seed config chain times
  rcases Indexer.seed_cases seeded with ⟨_, world, run, -, rfl⟩ | ⟨_, world, run, -, rfl⟩
  · rwa [run] at reached
  · rwa [run] at reached

/-- And so does one that is given a chunk. -/
theorem Reached.of_process {config : IndexerConfig} {chain : Chain} {chunk : Chunk}
    {i i' : Indexer Journal} {acknowledged : Bool} (before : i.world.store.Reached)
    (taken : Indexer.process config chain backend chunk i = .ok (acknowledged, i')) :
    i'.world.store.Reached := by
  have reached := before.index config chain chunk i.run.checkpoint
  rcases Indexer.process_cases taken with ⟨_, _, rfl⟩ | ⟨_, _, _, rfl⟩ |
    ⟨_, _, _, world, run, rfl⟩ | ⟨_, _, _, _, world, run, rfl⟩
  · exact before
  · exact before
  · rwa [run] at reached
  · rwa [run] at reached

/-! ## Rows that are not taken -/

theorem exists_entry {j : Journal} {brings : Call → List α} {r : α}
    (member : r ∈ (j.entries.reverse.map (·.call)).flatMap brings) :
    ∃ entry ∈ j.entries, r ∈ brings entry.call := by
  obtain ⟨call, noted, its⟩ := List.mem_flatMap.mp member
  obtain ⟨entry, among, rfl⟩ := List.mem_map.mp noted
  exact ⟨entry, List.mem_reverse.mp among, its⟩

theorem Kept.written_keyed {j : Journal} (kept : j.Kept) :
    (∀ r ∈ j.written.poolAmounts, r.Keyed) ∧ ∀ r ∈ j.written.poolAprs, r.Keyed ∧ r.Listed := by
  constructor
  · intro r member
    obtain ⟨entry, among, its⟩ := exists_entry member
    exact (kept.keyed entry among).amounts r its
  · intro r member
    obtain ⟨entry, among, its⟩ := exists_entry member
    exact (kept.keyed entry among).aprs r its

theorem Kept.amounts_first {j : Journal} (kept : j.Kept) :
    FirstOfEach PoolAmount.key j.written.poolAmounts j.store.poolAmounts := by
  have firsts : FirstOfEach PoolAmount.key j.written.poolAmounts _ := KeyedRows.firstOfEach _
  rwa [← kept.amounts] at firsts

theorem Kept.aprs_first {j : Journal} (kept : j.Kept) :
    FirstOfEach PoolApr.key j.written.poolAprs j.store.poolAprs := by
  have firsts : FirstOfEach PoolApr.key j.written.poolAprs _ := KeyedRows.firstOfEach _
  rwa [← kept.aprs] at firsts

end Journal

/-- The keys of rows tell what the rows say. Those of reserves tell the time and the pair; those of
yields, where no address has a hyphen, the time, the pair, the supply, the bond and the texts of
the rewards and of the yield. So no row is dropped for another that says something else: neither
among those of a chunk, nor where a store has taken the rows that indexers wrote. -/
theorem keys_identify :
    (∀ (time time' : Int) (pair pair' : String),
      RowKey.poolAmount time pair = RowKey.poolAmount time' pair' → time = time' ∧ pair = pair') ∧
    (∀ (time time' : Int) (pair pair' : String) (supply supply' bond bond' : Int)
      (rewards rewards' : List Json) (apr apr' : Binary64),
      '-' ∉ pair.toList → '-' ∉ pair'.toList →
      RowKey.poolApr time pair supply bond (Json.arr rewards).compact apr =
        RowKey.poolApr time' pair' supply' bond' (Json.arr rewards').compact apr' →
      time = time' ∧ pair = pair' ∧ supply = supply' ∧ bond = bond' ∧
        (Json.arr rewards).compact = (Json.arr rewards').compact ∧
        apr.plainText = apr'.plainText) ∧
    (∀ (events : List Event) (pairs : List Pair) (s : Snapshot), ∀ event ∈ events, ∀ site,
      event.site? pairs = some site → ∃ row ∈ poolHistory events pairs s, row.site = site) ∧
    ∀ j : Journal, j.Reached →
      (∀ r ∈ j.written.poolAmounts,
        ∃ first ∈ j.store.poolAmounts, first.key = r.key ∧ first.site = r.site) ∧
      ((∀ r ∈ j.written.poolAprs, '-' ∉ r.pairAddress.toList) →
        ∀ r ∈ j.written.poolAprs,
          ∃ first ∈ j.store.poolAprs, first.key = r.key ∧ first.content = r.content) := by
  refine ⟨?_, ?_, ?_, ?_⟩
  · intro time time' pair pair' same
    exact RowKey.poolAmount_inj.mp same
  · intro time time' pair pair' supply supply' bond bond' rewards rewards' apr apr' plain plain'
    exact (RowKey.poolApr_inj plain plain' (Json.compact_arr_closed rewards)
      (Json.compact_arr_closed rewards')).mp
  · intro events pairs s event member site its
    have written : site ∈ (poolHistory events pairs s).map (·.site) := by
      rw [poolHistory_sites, List.mem_eraseDups]
      exact List.mem_filterMap.mpr ⟨event, member, its⟩
    exact List.mem_map.mp written
  · intro j reached
    have kept := reached.kept
    obtain ⟨amounts, aprs⟩ := kept.written_keyed
    constructor
    · intro r member
      obtain ⟨first, stored, arrived, same⟩ := kept.amounts_first.exists_row member
      exact ⟨first, stored, same,
        ((amounts first arrived).key_eq_iff_site (amounts r member)).mp same⟩
    · intro plain r member
      obtain ⟨first, stored, arrived, same⟩ := kept.aprs_first.exists_row member
      obtain ⟨keyed, listed⟩ := aprs r member
      obtain ⟨keyed', listed'⟩ := aprs first arrived
      exact ⟨first, stored, same, (keyed'.key_eq_iff keyed listed' listed (plain first arrived)
        (plain r member)).mp same⟩

/-! Two swaps of a pair within one second, in different chunks. -/

section

open LatestReserves Indexer

def notedSeeding : Indexer Journal :=
  after (start {}) (seed swapConfig stakedChain Journal.backend ⟨1000, 1001⟩ (start {}))

def notedChunk (chunk : Chunk) (i : Indexer Journal) : Indexer Journal :=
  after i (process swapConfig stakedChain Journal.backend chunk i)

def notedSwaps : Indexer Journal := notedChunk secondChunk (notedChunk firstChunk notedSeeding)

theorem notedChunk_reached {chunk : Chunk} {i : Indexer Journal} (before : i.world.store.Reached)
    (accepted : (process swapConfig stakedChain Journal.backend chunk i).toOption.map (·.1) =
      some true) : (notedChunk chunk i).world.store.Reached := by
  have taken : process swapConfig stakedChain Journal.backend chunk i =
    .ok (true, notedChunk chunk i) := taken_after i accepted
  exact before.of_process taken

theorem notedSeeding_reached : notedSeeding.world.store.Reached := by
  have seeded : seed swapConfig stakedChain Journal.backend ⟨1000, 1001⟩ (start {}) =
    .ok (.ok (), notedSeeding) := seeded_after _ (by decide +kernel)
  exact Journal.Reached.empty.of_seed seeded

theorem notedSwaps_reached : notedSwaps.world.store.Reached := by
  have first : (notedChunk firstChunk notedSeeding).world.store.Reached :=
    notedChunk_reached notedSeeding_reached (by decide +kernel)
  rw [notedSwaps]
  exact notedChunk_reached first (by decide +kernel)

/-- Two numbers that are none have one text, and so do a number that is none and nothing in a list;
their keys are the same. The row of the second swap is not taken, for that of the first one. -/
theorem keys_identify_repeat :
    (RowKey.poolApr 7 "p" 1 (-2) (Json.arr [.null]).compact .nan =
        RowKey.poolApr 7 "p" 1 (-2) (Json.arr [.real .nan]).compact (.neg .nan) ∧
      (Json.arr [.null]).compact = (Json.arr [.real .nan]).compact) ∧
    (∃ row ∈ notedSwaps.world.store.written.poolAmounts,
      row ∉ notedSwaps.world.store.store.poolAmounts ∧
      ∃ first ∈ notedSwaps.world.store.store.poolAmounts,
        first.key = row.key ∧ first.site = row.site) ∧
    notedSwaps.world.store.written.poolAprs.length = 3 ∧
    ∀ row ∈ notedSwaps.world.store.written.poolAprs,
      ∃ first ∈ notedSwaps.world.store.store.poolAprs,
        first.key = row.key ∧ first.content = row.content := by
  obtain ⟨-, aprKeys, -, stored⟩ := keys_identify
  obtain ⟨amounts, aprs⟩ := stored notedSwaps.world.store notedSwaps_reached
  have same : RowKey.poolApr 7 "p" 1 (-2) (Json.arr [.null]).compact .nan =
    RowKey.poolApr 7 "p" 1 (-2) (Json.arr [.real .nan]).compact (.neg .nan) := by decide +kernel
  refine ⟨⟨same, ?_⟩, ?_, by decide +kernel, aprs (by decide +kernel)⟩
  · obtain ⟨-, -, -, -, rewards, -⟩ :=
      aprKeys _ _ _ _ _ _ _ _ _ _ _ _ (by decide) (by decide) same
    exact rewards
  · have dropped : ∃ row ∈ notedSwaps.world.store.written.poolAmounts,
      row ∉ notedSwaps.world.store.store.poolAmounts := by decide +kernel
    obtain ⟨row, written, absent⟩ := dropped
    exact ⟨row, written, absent, amounts row written⟩

end

end PoolIndexer
