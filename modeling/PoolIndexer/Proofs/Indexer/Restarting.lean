import PoolIndexer.Proofs.History
import PoolIndexer.Proofs.Indexer.Filling
import PoolIndexer.Proofs.Indexer.Processing
import PoolIndexer.Proofs.LatestReserves

/-! Seeding once more. Where seeding was cut short, the store has some of what a seed that is not
disturbed would have written, and nothing else; so a new indexer completes it, and what it leaves
differs from an undisturbed seed in times alone. -/
namespace PoolIndexer.Indexer

variable {config : IndexerConfig} {truth : Chain}

/-! ## Runs -/

/-- Seeds of a new indexer, whatever comes of them. What is left of its storage is seen as a
store. -/
inductive Seeds (config : IndexerConfig) (chain : Chain) (times : SeedTimes)
    (result : Except (List String) Unit) : Store → Store → Prop
  | of {σ : Type} {view : σ → Store} {backend : Backend σ} (mirrors : backend.Mirrors view)
      {storage : σ} {i : Indexer σ}
      (seeded : seed config chain backend times (start storage) = .ok (result, i)) :
      Seeds config chain times result (view storage) (view i.world.store)

/-- What is left of an empty store where seeding was cut short, any number of times. The chain
answered as it always does, or failed. -/
inductive Interrupted (config : IndexerConfig) (truth : Chain) : Store → Prop
  | empty : Interrupted config truth {}
  | cut {s s' : Store} {chain : Chain} {times : SeedTimes} {texts : List String}
      (before : Interrupted config truth s) (follows : chain.Follows truth)
      (stopped : Seeds config chain times (.error texts) s s') : Interrupted config truth s'

section

variable {chain : Chain} {times : SeedTimes} {s s' : Store}

theorem Seeds.completes (seeds : Seeds config chain times (.ok ()) s s') :
    ∃ listed u, Completes config chain times s listed u s' := by
  obtain ⟨mirrors, seeded⟩ := seeds
  rcases seed_cases seeded with ⟨_, _, run, -, rfl⟩ | ⟨_, _, _, failed, _⟩
  · exact (seedStorage_effect mirrors).ok rfl run
  · cases failed

theorem Seeds.begun {texts : List String} (seeds : Seeds config chain times (.error texts) s s') :
    Begun config chain times s s' := by
  obtain ⟨mirrors, seeded⟩ := seeds
  rcases seed_cases seeded with ⟨_, _, _, succeeded, _⟩ | ⟨_, _, run, -, rfl⟩
  · cases succeeded
  · exact (seedStorage_effect mirrors).error rfl run

/-- A seed that can come to its end comes to it on the store in memory. -/
theorem Completes.seeds {listed : List Pair} {u : Store}
    (completes : Completes config chain times s listed u s') :
    ∃ i, seed config chain Store.backend times (start s) = .ok (.ok (), i) := by
  obtain ⟨v, run, -⟩ := seedStorage_reaches completes (w := { store := s }) rfl
  exact ⟨_, by rw [seed, start, run]⟩

end

/-! ## What is there after a seed that was cut short -/

/-- The pairs as they are stored in an empty table. -/
def pairTable (listed : List Pair) : List (String × PairRow) :=
  (pairRows listed).foldl (putLast PairRow.address) []

/-- The reserves at the start height, as they are stored at a time in an empty table. -/
def Reserved (config : IndexerConfig) (truth : Chain) (listed : List Pair) (time : Int)
    (stored : List PoolAmount) : Prop :=
  ∃ rows, firstAmounts truth (trackedPairs listed) config.startHeight time = .ok rows ∧
    stored = rows.foldl (addNew PoolAmount.key) []

/-- Each part of the store is as it was at the beginning, or as an undisturbed seed leaves it; there
are no yields. -/
structure Partly (config : IndexerConfig) (truth : Chain) (s : Store) : Prop where
  checkpoint : s.checkpoint = none ∨ s.checkpoint = some config.startHeight
  pairs : s.pairs = [] ∨
    ∃ listed, listing truth config.factories = .ok listed ∧ s.pairs = pairTable listed
  amounts : s.poolAmounts = [] ∨
    ∃ listed, listing truth config.factories = .ok listed ∧
      ∃ time, Reserved config truth listed time s.poolAmounts
  aprs : s.poolAprs = []

theorem partly_empty : Partly config truth {} where
  checkpoint := .inl rfl
  pairs := .inl rfl
  amounts := .inl rfl
  aprs := rfl

/-! ## Checkpoint and pairs -/

/-- The table of pairs once listed ones are stored, unless there are as many. -/
def pairsAfter (stored : List (String × PairRow)) (listed : List Pair) :
    List (String × PairRow) :=
  if stored.length ≠ (reconcile listed).length
  then (pairRows listed).foldl (putLast PairRow.address) stored
  else stored

theorem prepared_eq (config : IndexerConfig) (s : Store) (listed : List Pair) :
    prepared config s listed = { s with
      checkpoint := some (seedHeight config s)
      pairs := pairsAfter s.pairs listed } := by
  unfold prepared Store.withPairs pairsAfter
  rw [Store.raiseCheckpoint_eq]
  dsimp only
  split
  · rfl
  · rfl

/-- The table is the same whether it was empty or had the pairs. -/
theorem pairsAfter_eq {stored : List (String × PairRow)} {listed : List Pair}
    (before : stored = [] ∨ stored = pairTable listed) :
    pairsAfter stored listed = pairTable listed := by
  unfold pairsAfter
  split
  · rcases before with rfl | rfl
    · rfl
    · exact foldl_putLast_again _
  · rename_i asMany
    rcases before with rfl | same
    · have none : reconcile listed = [] :=
        List.length_eq_zero_iff.mp (by simpa [eq_comm] using asMany)
      simp [pairTable, pairRows, none]
    · exact same

section

variable {s u : Store} {listed : List Pair} (partly : Partly config truth s)
  (lists : listing truth config.factories = .ok listed)
include partly

theorem Partly.seedHeight_eq : seedHeight config s = config.startHeight := by
  unfold seedHeight
  rcases partly.checkpoint with none | started
  · simp [none]
  · simp [started]

include lists

/-- The checkpoint and the pairs are completed, and nothing else is touched. -/
theorem Partly.prepared_eq : prepared config s listed = { s with
    checkpoint := some config.startHeight
    pairs := pairTable listed } := by
  have pairs : s.pairs = [] ∨ s.pairs = pairTable listed := by
    refine partly.pairs.imp_right ?_
    rintro ⟨listed', lists', table⟩
    rwa [Except.ok.inj (lists'.symm.trans lists)] at table
  rw [Indexer.prepared_eq, partly.seedHeight_eq, pairsAfter_eq pairs]

end

/-! ## Reserves -/

/-- The store has all that an undisturbed seed leaves but the yields. -/
structure Stocked (config : IndexerConfig) (truth : Chain) (listed : List Pair) (time : Int)
    (u : Store) : Prop where
  checkpoint : u.checkpoint = some config.startHeight
  pairs : u.pairs = pairTable listed
  amounts : Reserved config truth listed time u.poolAmounts
  aprs : u.poolAprs = []

section

variable {chain : Chain} {now time : Int} {times : SeedTimes} {s s' u u' : Store}
  {listed : List Pair}

theorem FillsAmounts.follows {height : Nat} (fills : FillsAmounts chain listed height now s u)
    (follows : chain.Follows truth) :
    FillsAmounts truth listed height now s u := by
  cases fills with
  | kept filled => exact .kept filled
  | added empty had restored => exact .added empty (firstAmounts_follows follows had) restored

theorem Partly.stocked (partly : Partly config truth s)
    (lists : listing truth config.factories = .ok listed)
    (fills : FillsAmounts truth listed (seedHeight config s) now (prepared config s listed) u) :
    ∃ time, Stocked config truth listed time u := by
  rw [partly.prepared_eq lists, partly.seedHeight_eq] at fills
  cases fills with
  | kept filled =>
    rcases partly.amounts with none | ⟨listed', lists', time, reserved⟩
    · exact absurd none filled
    · rw [Except.ok.inj (lists'.symm.trans lists)] at reserved
      exact ⟨time, rfl, rfl, reserved, partly.aprs⟩
  | @added rows empty had =>
    refine ⟨now, rfl, rfl, ⟨rows, had, ?_⟩, partly.aprs⟩
    have table : _ = rows.foldl (addNew PoolAmount.key) s.poolAmounts :=
      KeyedRows.rows_foldl_upsert s.keyedAmounts rows
    have empty : s.poolAmounts = [] := empty
    rwa [empty] at table

theorem Stocked.partly (stocked : Stocked config truth listed time u)
    (lists : listing truth config.factories = .ok listed) : Partly config truth u where
  checkpoint := .inr stocked.checkpoint
  pairs := .inr ⟨listed, lists, stocked.pairs⟩
  amounts := .inr ⟨listed, lists, time, stocked.amounts⟩
  aprs := stocked.aprs

/-- Whatever is done before a seed stops, is part of an undisturbed one. -/
theorem Partly.begun (partly : Partly config truth s) (follows : chain.Follows truth)
    (begun : Begun config chain times s s') : Partly config truth s' := by
  cases begun with
  | untouched => exact partly
  | raised =>
    rw [Store.raiseCheckpoint_eq]
    have checkpoint : PoolIndexer.raised s.checkpoint config.startHeight =
        some (seedHeight config s) := rfl
    rw [checkpoint, partly.seedHeight_eq]
    exact ⟨.inr rfl, partly.pairs, partly.amounts, partly.aprs⟩
  | @paired listed lists =>
    have lists := listing_follows follows lists
    rw [partly.prepared_eq lists]
    exact ⟨.inr rfl, .inr ⟨listed, lists, rfl⟩, partly.amounts, partly.aprs⟩
  | reserved lists amounts =>
    have lists := listing_follows follows lists
    obtain ⟨time, stocked⟩ := partly.stocked lists (amounts.follows follows)
    exact stocked.partly lists

theorem interrupted_partly (interrupted : Interrupted config truth s) : Partly config truth s := by
  induction interrupted with
  | empty => exact partly_empty
  | cut _ follows stopped ih => exact ih.begun follows stopped.begun

/-! ## Both ends -/

theorem Reserved.timed {stored : List PoolAmount}
    (reserved : Reserved config truth listed time stored) :
    ∀ r ∈ stored, r.Keyed ∧ r.time = time := by
  obtain ⟨rows, first, rfl⟩ := reserved
  intro r member
  rcases mem_of_mem_foldl_addNew member with absent | new
  · cases absent
  · exact (firstAmounts_stamped time first).2 r new

/-- The reserves of two seeds are the same up to their time. -/
theorem Reserved.stamped {time' : Int} {stored stored' : List PoolAmount}
    (reserved : Reserved config truth listed time stored)
    (reserved' : Reserved config truth listed time' stored') :
    stored' = stored.map (·.stamped time') := by
  obtain ⟨rows, first, rfl⟩ := reserved
  obtain ⟨rows', first', rfl⟩ := reserved'
  obtain ⟨again, all⟩ := firstAmounts_stamped time' first
  obtain rfl : rows' = rows.map (·.stamped time') := Except.ok.inj (first'.symm.trans again)
  exact PoolAmount.foldl_stamped time' all

/-- The pools that are read back are the same, whenever they were stored. -/
theorem Stocked.pools {time' : Int} (stocked : Stocked config truth listed time u)
    (stocked' : Stocked config truth listed time' u') (pairs : List Pair) (height : Nat) :
    Snapshot.ofHistory pairs u'.latestPoolAmounts height =
      Snapshot.ofHistory pairs u.latestPoolAmounts height := by
  rw [Store.ofHistory_latest (Store.distinct_pairs stocked.amounts.timed),
    Store.ofHistory_latest (Store.distinct_pairs stocked'.amounts.timed),
    stocked.amounts.stamped stocked'.amounts, Snapshot.ofHistory_stamped]

/-- Two stores after a seed are the same up to the times of their rows. -/
structure Agree (s s' : Store) (amountsTime aprsTime : Int) : Prop where
  checkpoint : s'.checkpoint = s.checkpoint
  pairs : s'.pairs = s.pairs
  amounts : s'.poolAmounts = s.poolAmounts.map (·.stamped amountsTime)
  aprs : s'.poolAprs = s.poolAprs.map (·.stamped aprsTime)

theorem Stocked.filled (stocked : Stocked config truth listed time u)
    (fills : FillsAprs config truth listed config.startHeight now u s) :
    s.checkpoint = u.checkpoint ∧ s.pairs = u.pairs ∧ s.poolAmounts = u.poolAmounts ∧
      ∃ rows, firstAprs config truth (trackedPairs listed)
          (Snapshot.ofHistory (trackedPairs listed) u.latestPoolAmounts config.startHeight)
          config.startHeight now = .ok rows ∧
        Record.Restored rows ∧ s.poolAprs = rows.foldl (addNew PoolApr.key) [] := by
  cases fills with
  | kept filled => exact absurd stocked.aprs filled
  | @added rows empty had restored =>
    refine ⟨rfl, rfl, rfl, rows, had, restored, ?_⟩
    have table : _ = rows.foldl (addNew PoolApr.key) u.poolAprs :=
      KeyedRows.rows_foldl_upsert u.keyedAprs rows
    rwa [stocked.aprs] at table

theorem Stocked.agree {time' now' : Int} (stocked : Stocked config truth listed time u)
    (stocked' : Stocked config truth listed time' u')
    (fills : FillsAprs config truth listed config.startHeight now u s)
    (fills' : FillsAprs config truth listed config.startHeight now' u' s') :
    Agree s s' time' now' := by
  obtain ⟨checkpoint, pairs, amounts, rows, first, -, aprs⟩ := stocked.filled fills
  obtain ⟨checkpoint', pairs', amounts', rows', first', -, aprs'⟩ := stocked'.filled fills'
  obtain ⟨again, all⟩ := firstAprs_stamped now' first
  rw [stocked.pools stocked'] at first'
  obtain rfl : rows' = rows.map (·.stamped now') := Except.ok.inj (first'.symm.trans again)
  constructor
  · rw [checkpoint, checkpoint', stocked.checkpoint, stocked'.checkpoint]
  · rw [pairs, pairs', stocked.pairs, stocked'.pairs]
  · rw [amounts, amounts']
    exact stocked.amounts.stamped stocked'.amounts
  · rw [aprs, aprs']
    exact PoolApr.foldl_stamped now' all

/-- What keeps an undisturbed seed from its end, and nothing else, keeps a seed from it that goes on
where another was cut short. -/
theorem Partly.completes (partly : Partly config truth s)
    (undisturbed : Completes config truth times {} listed u' s') :
    ∃ u t, Completes config truth times s listed u t := by
  obtain ⟨lists, amounts, aprs⟩ := undisturbed
  have nothing : Partly config truth {} := partly_empty
  have fills : ∃ u, FillsAmounts truth listed (seedHeight config s) times.reserves
      (prepared config s listed) u := by
    by_cases empty : (prepared config s listed).poolAmounts = []
    · rw [nothing.prepared_eq lists, nothing.seedHeight_eq] at amounts
      rw [partly.seedHeight_eq]
      cases amounts with
      | kept filled => exact absurd rfl filled
      | added _ had restored => exact ⟨_, .added empty had restored⟩
    · exact ⟨_, .kept empty⟩
  obtain ⟨u, fills⟩ := fills
  obtain ⟨_, stocked⟩ := partly.stocked lists fills
  obtain ⟨_, stocked'⟩ := nothing.stocked lists amounts
  rw [nothing.seedHeight_eq] at aprs
  obtain ⟨_, _, _, rows, first, restored, _⟩ := stocked'.filled aprs
  rw [← stocked'.pools stocked] at first
  refine ⟨u, _, lists, fills, .added stocked.aprs ?_ restored⟩
  rwa [partly.seedHeight_eq]

/-! ## After the end -/

theorem FillsAmounts.keeps {height : Nat} (filled : s.poolAmounts ≠ [])
    (fills : FillsAmounts chain listed height now (prepared config s listed) u) :
    u.poolAmounts = s.poolAmounts ∧ u.poolAprs = s.poolAprs := by
  rw [Indexer.prepared_eq] at fills
  cases fills with
  | kept => exact ⟨rfl, rfl⟩
  | added empty => exact absurd empty filled

/-- Where there are reserves and yields, a seed touches neither, whatever comes of it. -/
theorem Seeds.keeps {result : Except (List String) Unit}
    (seeds : Seeds config chain times result s s') (reserves : s.poolAmounts ≠ [])
    (yields : s.poolAprs ≠ []) :
    s'.poolAmounts = s.poolAmounts ∧ s'.poolAprs = s.poolAprs := by
  cases result with
  | error texts =>
    cases seeds.begun with
    | untouched => exact ⟨rfl, rfl⟩
    | raised =>
      rw [Store.raiseCheckpoint_eq]
      exact ⟨rfl, rfl⟩
    | paired =>
      rw [Indexer.prepared_eq]
      exact ⟨rfl, rfl⟩
    | reserved _ fills => exact fills.keeps reserves
  | ok _ =>
    obtain ⟨listed, u, completes⟩ := seeds.completes
    obtain ⟨amounts, aprs⟩ := completes.amounts.keeps reserves
    cases completes.aprs with
    | kept => exact ⟨amounts, aprs⟩
    | added empty => exact absurd (aprs.symm.trans empty) yields

end

/-- Seeding is restartable. A seed that succeeds on what is left of an empty store after any number
of seeds that were cut short leaves what an undisturbed seed leaves, up to the times of the rows;
where an undisturbed seed succeeds, so does it. Once there are reserves and yields after a seed,
another one touches neither. -/
theorem interrupted_restarts {s : Store} (interrupted : Interrupted config truth s) :
    (∀ {times times' : SeedTimes} {s' t : Store}, Seeds config truth times (.ok ()) s s' →
      Seeds config truth times' (.ok ()) {} t → ∃ time, Agree t s' time times.yields) ∧
    (∀ {times : SeedTimes} {t : Store}, Seeds config truth times (.ok ()) {} t →
      ∃ i, seed config truth Store.backend times (start s) = .ok (.ok (), i)) ∧
    ∀ {chain : Chain} {times times' : SeedTimes} {result : Except (List String) Unit}
        {s' t : Store},
      Seeds config truth times (.ok ()) s s' → s'.poolAmounts ≠ [] → s'.poolAprs ≠ [] →
      Seeds config chain times' result s' t →
        t.poolAmounts = s'.poolAmounts ∧ t.poolAprs = s'.poolAprs := by
  have partly := interrupted_partly interrupted
  have nothing : Partly config truth {} := partly_empty
  refine ⟨fun restarted undisturbed => ?_, fun undisturbed => ?_, fun _ reserves yields again => ?_⟩
  · obtain ⟨listed, u, completes⟩ := restarted.completes
    obtain ⟨listed', u', completes'⟩ := undisturbed.completes
    obtain rfl : listed' = listed := Except.ok.inj (completes'.lists.symm.trans completes.lists)
    obtain ⟨time, stocked⟩ := partly.stocked completes.lists completes.amounts
    obtain ⟨time', stocked'⟩ := nothing.stocked completes'.lists completes'.amounts
    have aprs := completes.aprs
    have aprs' := completes'.aprs
    rw [partly.seedHeight_eq] at aprs
    rw [nothing.seedHeight_eq] at aprs'
    exact ⟨time, stocked'.agree stocked aprs' aprs⟩
  · obtain ⟨listed, u, completes⟩ := undisturbed.completes
    obtain ⟨_, _, completes⟩ := partly.completes completes
    exact completes.seeds
  · exact again.keeps reserves yields

/-! A seed that stops where the reserves are to be read back, and what follows it. -/

section

open LatestReserves

/-- The chain of the swaps, with half of the liquidity tokens bonded. -/
def stakedChain : Chain := { swapChain with
  supply := fun _ _ => .ok 1000
  bond := fun _ _ => .ok 500
  rewards := fun _ _ => .ok [⟨swapPair.base, 3⟩] }

/-- A store in memory whose reserves cannot be read. -/
def unreadable : Backend Store :=
  { Store.backend with latestPoolAmounts := fun s => (.error (.failed "disk full"), s) }

theorem unreadable_mirrors : unreadable.Mirrors id :=
  { Store.backend_mirrors with
    latestPoolAmounts :=
      { ok := fun read => nomatch congrArg Prod.fst read
        error := fun failed => (congrArg Prod.snd failed).symm } }

/-- A clock that moves on by a second between the reserves and the yields. -/
def ticking (time : Int) : SeedTimes := ⟨time, time + 1⟩

def cutShort : Store :=
  (after (start {}) (seed swapConfig stakedChain unreadable (ticking 1000) (start {}))).world.store

def seededAt (time : Int) (s : Store) : Store :=
  (after (start s) (seed swapConfig stakedChain Store.backend (ticking time) (start s))).world.store

theorem cutShort_interrupted : Interrupted swapConfig stakedChain cutShort := by
  obtain ⟨texts, stopped⟩ := stopped_after (start {})
    (show (seed swapConfig stakedChain unreadable (ticking 1000) (start {})).toOption.map
      (·.1.toOption) = some none by decide +kernel)
  exact .cut .empty stakedChain.follows_self (.of unreadable_mirrors stopped)

theorem seededAt_seeds {time : Int} {s : Store}
    (succeeds : (seed swapConfig stakedChain Store.backend (ticking time) (start s)).toOption.map
      (·.1.toOption) = some (some ())) :
    Seeds swapConfig stakedChain (ticking time) (.ok ()) s (seededAt time s) :=
  .of Store.backend_mirrors (seeded_after _ succeeds)

/-- The reserves keep the time of the seed that stored them, and the yields get that of the seed
that came to its end. -/
theorem interrupted_restarts_unreadable :
    Interrupted swapConfig stakedChain cutShort ∧
      ((seededAt 2000 cutShort).poolAmounts.map (·.time),
        (seededAt 2000 cutShort).poolAprs.map (·.time)) = ([1000], [2001]) ∧
      (∃ time, Agree (seededAt 3000 {}) (seededAt 2000 cutShort) time 2001) ∧
      (∃ i, seed swapConfig stakedChain Store.backend (ticking 3000) (start cutShort) =
        .ok (.ok (), i)) ∧
      (seededAt 4000 (seededAt 2000 cutShort)).poolAmounts = (seededAt 2000 cutShort).poolAmounts ∧
      (seededAt 4000 (seededAt 2000 cutShort)).poolAprs = (seededAt 2000 cutShort).poolAprs := by
  have restarted : Seeds swapConfig stakedChain (ticking 2000) (.ok ()) cutShort
    (seededAt 2000 cutShort) := seededAt_seeds (by decide +kernel)
  have undisturbed : Seeds swapConfig stakedChain (ticking 3000) (.ok ()) {} (seededAt 3000 {}) :=
    seededAt_seeds (by decide +kernel)
  have again : Seeds swapConfig stakedChain (ticking 4000) (.ok ()) (seededAt 2000 cutShort)
    (seededAt 4000 (seededAt 2000 cutShort)) := seededAt_seeds (by decide +kernel)
  obtain ⟨leaves, restarts, keeps⟩ := interrupted_restarts cutShort_interrupted
  refine ⟨cutShort_interrupted, by decide +kernel, leaves restarted undisturbed,
    restarts undisturbed, keeps restarted ?_ ?_ again⟩
  · decide +kernel
  · decide +kernel

end

end PoolIndexer.Indexer
