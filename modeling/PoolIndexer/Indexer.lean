import PoolIndexer.Fee
import PoolIndexer.Indexer.Task
import PoolIndexer.Replay
import PoolIndexer.Store.Backend
import PoolIndexer.Transaction

/-!
The indexer: it is seeded once, and then turns every chunk of blocks into one commit.

A chunk is acknowledged when it is committed, or when the checkpoint has passed it already. A chunk
that fails is refused and may be delivered again; one that fails too often in a row halts the
indexer.
-/
namespace PoolIndexer

structure IndexerConfig where
  factories : List String
  hub : String
  usdt : String
  fees : FeeParams
  startHeight : Nat
  maxChunkAttempts : Nat
  deriving DecidableEq, Repr

/-- The transactions of a range of blocks and the last height of the range. -/
structure Chunk where
  txs : List Tx
  newHeight : Nat
  deriving Repr

/-! ## The registry -/

namespace Registry

/-- Pairs by address; of several pairs at one address the last one counts. -/
def ofPairs (pairs : List Pair) : List (String × Pair) :=
  pairs.foldl (fun m pair => Keyed.insert pair.address pair m) []

/-- The registered pairs in tracked order. -/
def pairs (registry : List (String × Pair)) : List Pair :=
  (registry.map (·.2)).mergeSort fun a b => decide (trackedIndex a ≤ trackedIndex b)

end Registry

namespace Indexer

variable {σ : Type}

/-- The pairs of all factories, one after the other. -/
def listFactories (chain : Chain) : List String → Task σ (List Pair)
  | [] => return []
  | factory :: rest => do
    let answer ← Task.ask (.factory factory) (chain.factory factory)
    let pairs ← Task.need ["Failed to list pairs of factory " ++ factory] answer
    return pairs ++ (← listFactories chain rest)

/-- Writes records, if there are any. -/
def insertRecords {α : Type} [Record α] (backend : Backend σ) (records : List α) :
    Task σ Unit :=
  match records with
  | [] => return ()
  | records => do
    let _ ← Task.perform [] (backend.insert (Record.table α) (records.map Record.toJson))

/-- Finds the tracked pairs among those of the factories, stores them if their number has changed,
and registers them. -/
def refresh (config : IndexerConfig) (chain : Chain) (backend : Backend σ) :
    Task σ (List Pair) := do
  let found := reconcile (← listFactories chain config.factories)
  let stored ← Task.perform [] (backend.count PairRow.table)
  if stored ≠ found.length then
    insertRecords backend (found.map fun (pair, symbols) => PairRow.ofPair pair symbols)
  let pairs := found.map (·.1)
  Task.register (Registry.ofPairs pairs)
  return pairs

/-- The snapshot of pairs at a height. -/
def resolvePools (chain : Chain) (pairs : List Pair) (height : Nat) : Task σ Snapshot := do
  let addresses := pairs.map (·.address)
  let answer ← Task.ask (.pools addresses height) (chain.pools addresses height)
  let answers ← Task.need
    ["Failed to query pool reserves at height " ++ Numeral.text height] answer
  return .ofAnswers pairs answers height

/-! ## Yields -/

/-- What the yield of a pair depends on; the first query that fails decides. -/
def fetchAprInput (chain : Chain) (height : Nat) (pair : Pair) :
    Task σ (Except String AprInput) := do
  let token := pair.liquidityToken
  match ← Task.ask (.supply token height) (chain.supply token height) with
  | .error e => return .error e
  | .ok supply =>
    match ← Task.ask (.bond token height) (chain.bond token height) with
    | .error e => return .error e
    | .ok bond =>
      match ← Task.ask (.rewards token height) (chain.rewards token height) with
      | .error e => return .error e
      | .ok rewardsPerSecond => return .ok { pair, supply, bond, rewardsPerSecond }

/-- The inputs of every pair; a pair that fails does not keep the others from theirs. -/
def fetchAprInputs (chain : Chain) (pairs : List Pair) (height : Nat) :
    Task σ (List (Except String AprInput)) :=
  pairs.mapM (fetchAprInput chain height)

/-- The inputs that could be had. -/
def settled (inputs : List (Except String AprInput)) : List AprInput :=
  inputs.filterMap (·.toOption)

/-- The yields of pairs; without pairs nothing is priced or asked. -/
def poolAprs (config : IndexerConfig) (chain : Chain) (pairs : List Pair) (pools : Snapshot)
    (height : Nat) (time : Int) : Task σ (List PoolApr) := do
  if pairs.isEmpty then return []
  let book ← Task.compute (PriceBook.resolve config.hub config.usdt pairs pools)
  let inputs ← fetchAprInputs chain pairs height
  Task.compute (aprRows (settled inputs) pools book height time)

/-! ## Seeding -/

/-- The two times that a clock shows while a store is seeded. -/
structure SeedTimes where
  /-- When the first reserves are stored. -/
  reserves : Int
  /-- When the first yields are asked for. -/
  yields : Int
  deriving DecidableEq, Repr

/-- On a clock that stands still both times are the same. -/
instance : Coe Int SeedTimes where
  coe time := ⟨time, time⟩

/-- Prepares the store: tables, checkpoint, pairs, and where there are none the first reserves and
yields. Gives the checkpoint. -/
def seedStorage (config : IndexerConfig) (chain : Chain) (backend : Backend σ)
    (times : SeedTimes) : Task σ Nat := do
  Task.perform ["Failed to migrate storage"] backend.migrate
  let checkpoint ← Task.perform [] (backend.seedCheckpoint config.startHeight)
  let pairs ← refresh config chain backend
  if (← Task.perform [] (backend.count PoolAmount.table)) = 0 then
    let pools ← resolvePools chain pairs checkpoint
    insertRecords backend (pools.initialAmounts pairs times.reserves)
  if (← Task.perform [] (backend.count PoolApr.table)) = 0 then
    let latest ← Task.perform [] backend.latestPoolAmounts
    let pools := Snapshot.ofHistory pairs latest checkpoint
    insertRecords backend (← poolAprs config chain pairs pools checkpoint times.yields)
  return checkpoint

/-! ## Chunks -/

/-- The pairs whose reserves or staking a chunk changed. -/
def touchedPairs (w : ChunkWrite) (pairs : List Pair) : List Pair :=
  let addresses := w.swaps.map (·.pairAddress) ++ w.changes.map (·.pairAddress)
  let tokens := w.stakes.map (·.token) ++ w.earnings.map (·.token)
  pairs.filter fun pair => addresses.contains pair.address || tokens.contains pair.liquidityToken

/-- The rows of a chunk's events, priced by the pools before it; all but the yields. -/
def derive (config : IndexerConfig) (events : List Event) (newHeight : Nat) (pairs : List Pair)
    (pools : Snapshot) : Except ArithmeticError ChunkWrite := do
  let book ← PriceBook.resolve config.hub config.usdt pairs pools
  let swaps := (events.filterMap Event.swap?).map (·.valued book)
  let changes ← (events.filterMap Event.liquidity?).mapM (·.taxed config.fees book pairs)
  return {
    newHeight
    swaps
    changes := accumulateHoldings pools changes
    candles := buildCandles swaps pairs
    stakes := (events.filterMap Event.stake?).map (·.valued book pairs pools)
    earnings := (events.filterMap Event.earn?).map (·.valued book)
    poolAmounts := poolHistory events pairs pools }

/-- The latest time of events. -/
def latestTime (events : List Event) : Int :=
  match events.map (·.time) with
  | [] => 0
  | t :: rest => rest.foldl max t

/-- What a chunk writes. The pools are read at the checkpoint, right before the chunk; without
events nothing is asked. -/
def buildChunk (config : IndexerConfig) (chain : Chain) (chunk : Chunk) (checkpoint : Nat) :
    Task σ ChunkWrite := do
  let events := Tx.parseAll chunk.txs
  if events.isEmpty then return { newHeight := chunk.newHeight }
  let pairs := Registry.pairs (← Task.registered)
  let pools ← resolvePools chain pairs checkpoint
  let w ← Task.compute (derive config events chunk.newHeight pairs pools)
  let touched := touchedPairs w pairs
  if touched.isEmpty then return w
  let after := pools.withHistory pairs w.poolAmounts
  let poolAprs ← poolAprs config chain touched after chunk.newHeight (latestTime events)
  return { w with poolAprs }

/-- Builds a chunk and commits it. -/
def indexChunk (config : IndexerConfig) (chain : Chain) (backend : Backend σ) (chunk : Chunk)
    (checkpoint : Nat) : Task σ Unit := do
  let w ← buildChunk config chain chunk checkpoint
  Task.perform ["Failed to commit chunk"] (backend.commit w)

/-! ## Life -/

inductive Phase
  | init
  | seeding
  | running
  | failed
  deriving DecidableEq, Repr

structure RunState where
  phase : Phase := .init
  /-- The last height committed. -/
  checkpoint : Nat := 0
  /-- The chunk that fails now, by its height, and how many times it has failed in a row. -/
  streak : Option (Nat × Nat) := none
  halted : Bool := false
  deriving DecidableEq, Repr, Inhabited

end Indexer

/-- An indexer at work on a store. -/
structure Indexer (σ : Type) where
  run : Indexer.RunState := {}
  world : World σ

namespace Indexer

variable {σ : Type}

/-- A new indexer on a store. -/
def start (store : σ) : Indexer σ := { world := { store } }

/-- Seeds the store. A failure is final for the indexer, and its texts are given. -/
def seed (config : IndexerConfig) (chain : Chain) (backend : Backend σ) (times : SeedTimes)
    (i : Indexer σ) : Except ArithmeticError (Except (List String) Unit × Indexer σ) :=
  match seedStorage config chain backend times i.world with
  | (.ok checkpoint, world) =>
    .ok (.ok (), { run := { i.run with checkpoint, phase := .running }, world })
  | (.error (.failed texts), world) =>
    .ok (.error ("Failed to seed sync worker" :: texts),
      { run := { i.run with phase := .failed, halted := true }, world })
  | (.error (.arithmetic e), _) => .error e

/-- Counts a failure of the chunk that reaches up to a height. -/
def RunState.fail (run : RunState) (maxAttempts height : Nat) : RunState :=
  let attempts := match run.streak with
    | some (h, n) => if h = height then n + 1 else 1
    | none => 1
  let run := { run with streak := some (height, attempts) }
  if max maxAttempts 1 ≤ attempts then { run with phase := .failed, halted := true } else run

/-- Takes a chunk and tells whether it is acknowledged. -/
def process (config : IndexerConfig) (chain : Chain) (backend : Backend σ) (chunk : Chunk)
    (i : Indexer σ) : Except ArithmeticError (Bool × Indexer σ) :=
  if i.run.phase ≠ .running then .ok (false, i)
  else if chunk.newHeight ≤ i.run.checkpoint then .ok (true, i)
  else
    match indexChunk config chain backend chunk i.run.checkpoint i.world with
    | (.ok (), world) =>
      .ok (true, { run := { i.run with checkpoint := chunk.newHeight, streak := none }, world })
    | (.error (.failed _), world) =>
      .ok (false, { run := i.run.fail config.maxChunkAttempts chunk.newHeight, world })
    | (.error (.arithmetic e), _) => .error e

end Indexer
end PoolIndexer
