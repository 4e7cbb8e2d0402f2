import PoolIndexer.Store.Backend

/-!
The store in memory as a backend, alone and with a journal.
-/
namespace PoolIndexer

def Store.backend : Backend Store where
  name := "memory"
  migrate := .read fun _ => .ok ()
  seedCheckpoint height := .change fun s => .ok (s.seedCheckpoint height)
  loadCheckpoint := .read fun s => .ok s.checkpoint
  insert table rows := .change fun s => s.insert table rows
  commit w := .change fun s => (s.commit w).map fun s => ((), s)
  count table := .read fun s => s.count table
  pairInfos := .read fun s => .ok s.pairInfos
  latestPoolAmounts := .read fun s => .ok s.latestPoolAmounts
  volumes base quote interval start stop :=
    .read fun s => .ok (s.volumes base quote interval start stop)
  candles pair interval start stop := .read fun s => .ok (s.candlesIn pair interval start stop)
  overviews now := .read fun s => .ok (s.overviews now)
  stakedBy address start stop := .read fun s => .ok (s.stakedBy address start stop)
  earnedBy address start stop := .read fun s => .ok (s.earnedBy address start stop)

/-- A write that succeeded. -/
inductive JournalEntry
  | rows (table : Table) (rows : List Json) (count : Nat)
  | chunk (write : ChunkWrite)

/-- A store that notes what is written to it, and that can be made to refuse migrations and
commits. -/
structure Journal where
  store : Store := {}
  refusesMigration : Bool := false
  refusesCommits : Bool := false
  /-- The writes, the last one first. -/
  entries : List JournalEntry := []

namespace Journal

variable {α : Type}

/-- An action on the store, noted in the journal if it succeeds. -/
def noting (action : Action Store α) (entry : α → Option JournalEntry) : Action Journal α :=
  fun j =>
    match action j.store with
    | (.ok a, store) => (.ok a, { j with store, entries := (entry a).toList ++ j.entries })
    | (.error e, store) => (.error e, { j with store })

/-- An action that is not noted. -/
def unnoted (action : Action Store α) : Action Journal α := noting action fun _ => none

/-- An action that is refused under a condition. -/
def refusing (condition : Journal → Bool) (action : Action Journal α) : Action Journal α := fun j =>
  if condition j then (.error (.failed "disk full"), j) else action j

def backend : Backend Journal :=
  let b := Store.backend
  { name := b.name
    migrate := refusing refusesMigration (unnoted b.migrate)
    seedCheckpoint height := unnoted (b.seedCheckpoint height)
    loadCheckpoint := unnoted b.loadCheckpoint
    insert table rows := noting (b.insert table rows) fun count => some (.rows table rows count)
    commit w := refusing refusesCommits (noting (b.commit w) fun _ => some (.chunk w))
    count table := unnoted (b.count table)
    pairInfos := unnoted b.pairInfos
    latestPoolAmounts := unnoted b.latestPoolAmounts
    volumes base quote interval start stop := unnoted (b.volumes base quote interval start stop)
    candles pair interval start stop := unnoted (b.candles pair interval start stop)
    overviews now := unnoted (b.overviews now)
    stakedBy address start stop := unnoted (b.stakedBy address start stop)
    earnedBy address start stop := unnoted (b.earnedBy address start stop) }

end Journal
end PoolIndexer
