import PoolIndexer.Proofs.Indexer.Recording
import PoolIndexer.Proofs.Registry

/-! The latest reserves after a chunk. A row of reserves is kept by pair and second, and of several
rows the first one stays; so a pair's last change within a chunk is the latest that is stored of it
exactly where no row of that pair and second was there before the chunk. -/
namespace PoolIndexer

/-- The transactions of a chunk lie above a height and up to the chunk's own, and those of one
block have one time. -/
structure Chunk.Continues (chunk : Chunk) (checkpoint : Nat) : Prop where
  above : ∀ tx ∈ chunk.txs, checkpoint < tx.height
  within : ∀ tx ∈ chunk.txs, tx.height ≤ chunk.newHeight
  timed : ∀ tx ∈ chunk.txs, ∀ tx' ∈ chunk.txs, tx.height = tx'.height →
    Timestamp.parse? tx.timestamp = Timestamp.parse? tx'.timestamp

/-- The store has no row of a pair's reserves at a time. -/
def Store.Vacant (s : Store) (address : String) (time : Int) : Prop :=
  ∀ row ∈ s.poolAmounts, row.pairAddress = address → row.time ≠ time

namespace LatestReserves

variable {config : IndexerConfig} {chain : Chain} {chunk : Chunk} {i i' : Indexer Store}

/-! ## Runs -/

/-- The indexers on a store in memory that seeding, chunks and new starts lead to. -/
inductive Indexed (config : IndexerConfig) : Indexer Store → Prop
  | start {store : Store} (recorded : store.Recorded) : Indexed config (Indexer.start store)
  | restart {i : Indexer Store} (before : Indexed config i) :
      Indexed config (Indexer.start i.world.store)
  | seed {i i' : Indexer Store} {chain : Chain} {times : Indexer.SeedTimes}
      {result : Except (List String) Unit}
      (before : Indexed config i)
      (seeded : Indexer.seed config chain Store.backend times i = .ok (result, i')) :
      Indexed config i'
  | process {i i' : Indexer Store} {chain : Chain} {chunk : Chunk} {acknowledged : Bool}
      (before : Indexed config i) (within : ∀ tx ∈ chunk.txs, tx.height ≤ chunk.newHeight)
      (taken : Indexer.process config chain Store.backend chunk i = .ok (acknowledged, i')) :
      Indexed config i'

theorem indexed_recorded (indexed : Indexed config i) : i.world.store.Recorded := by
  induction indexed with
  | start recorded => exact recorded
  | restart _ ih => exact ih
  | seed _ seeded ih => exact Indexer.seed_recorded Store.backend_mirrors ih seeded
  | process _ within taken ih =>
    exact Indexer.process_recorded Store.backend_mirrors ih within taken

/-- At work, an indexer is ready by what some chain lists. -/
theorem indexed_ready (indexed : Indexed config i) (running : i.run.phase = .running) :
    ∃ truth, Indexer.Ready id truth config i := by
  induction indexed with
  | start _ => cases running
  | restart _ _ => cases running
  | @seed _ _ chain _ _ _ seeded _ =>
    exact ⟨chain, (Indexer.seed_running Store.backend_mirrors chain.follows_self seeded running).1⟩
  | @process i _ _ _ acknowledged _ _ taken ih =>
    by_cases before : i.run.phase = .running
    · obtain ⟨truth, ready⟩ := ih before
      exact ⟨truth,
        (Indexer.process_ready Store.backend_mirrors (fun _ => ready) taken).1 running⟩
    -- the three other outcomes are those of an indexer at work
    · rcases Indexer.process_cases taken with ⟨_, _, rfl⟩ | ⟨work, _⟩ | ⟨work, _⟩ | ⟨work, _⟩
      · exact absurd running before
      · exact absurd work before
      · exact absurd work before
      · exact absurd work before

/-! ## The last event of a pair -/

section

variable {events : List Event} {address : String} {last : Event}

theorem last_mem (isLast : (events.filter (·.touches address)).getLast? = some last) :
    last ∈ events ∧ last.touches address :=
  List.mem_filter.mp (List.mem_of_getLast? isLast)

/-- No event of the pair lies above its last one. -/
theorem le_last (ascends : events.Pairwise fun a b => a.height ≤ b.height)
    (isLast : (events.filter (·.touches address)).getLast? = some last) {event : Event}
    (member : event ∈ events) (touches : event.touches address) : event.height ≤ last.height := by
  obtain ⟨earlier, chosen⟩ := List.getLast?_eq_some_iff.mp isLast
  have own : event ∈ events.filter (·.touches address) := List.mem_filter.mpr ⟨member, touches⟩
  have sorted := ascends.filter (·.touches address)
  rw [chosen] at own sorted
  rcases List.mem_append.mp own with before | same
  · exact (List.pairwise_append.mp sorted).2.2 event before last (List.mem_singleton_self last)
  · exact Nat.le_of_eq (congrArg Event.height (List.mem_singleton.mp same))

end

theorem time_eq_of_height_eq {checkpoint : Nat} (continues : chunk.Continues checkpoint)
    {a b : Event} (memberA : a ∈ Tx.parseAll chunk.txs) (memberB : b ∈ Tx.parseAll chunk.txs)
    (same : a.height = b.height) : a.time = b.time := by
  obtain ⟨tx, among, its⟩ := Tx.mem_parseAll.mp memberA
  obtain ⟨tx', among', its'⟩ := Tx.mem_parseAll.mp memberB
  obtain ⟨height, time⟩ := Tx.events_at its
  obtain ⟨height', time'⟩ := Tx.events_at its'
  have times := continues.timed tx among tx' among' (by omega)
  rw [time, time'] at times
  exact Option.some.inj times

/-- The rows of a pair after a chunk lie below its last event in the chunk, but for the row of that
event, which is there if its key was free. -/
theorem rows_after {checkpoint : Nat} {pairs : List Pair} {pools : Snapshot} {pair : Pair}
    {last : Event} {old : List PoolAmount} (continues : chunk.Continues checkpoint)
    (known : findByAddress pairs pair.address = some pair)
    (isLast : ((Tx.parseAll chunk.txs).filter (·.touches pair.address)).getLast? = some last)
    (below : ∀ o ∈ old, o.height ≤ checkpoint) {r : PoolAmount}
    (stored : r ∈ (poolHistory (Tx.parseAll chunk.txs) pairs pools).foldl
      (addNew PoolAmount.key) old) (its : r.pairAddress = pair.address) :
    r.height < last.height ∨
      r = pools.finalRow pair (Tx.parseAll chunk.txs) last ∧ Fresh old r := by
  obtain ⟨lastMember, _⟩ := last_mem isLast
  have distinct := poolHistory_distinct (Tx.parseAll chunk.txs) pairs pools
  rcases (mem_foldl_addNew distinct).mp stored with present | ⟨new, fresh⟩
  · obtain ⟨tx, among, emits⟩ := Tx.mem_parseAll.mp lastMember
    have above := continues.above tx among
    have bound := below r present
    have height := (Tx.events_at emits).1
    exact .inl (by omega)
  · obtain ⟨event, among, touches, held, row⟩ := poolHistory_rows new
    rw [its] at touches row
    have bound := le_last (Tx.parseAll_ascends _) isLast among touches
    have height : r.height = event.height := congrArg PoolAmount.height row
    by_cases lower : r.height < last.height
    · exact .inl lower
    -- at one height the times agree, and so do the keys: the row is that of the last event
    · have time := time_eq_of_height_eq continues among lastMember (by omega)
      have key : r.key = (pools.finalRow pair (Tx.parseAll chunk.txs) last).key := by
        rw [row]
        exact congrArg (RowKey.poolAmount · pair.address) time
      exact .inr ⟨distinct.eq_of_key new (finalRow_mem known isLast) key, fresh⟩

theorem vacant_iff_fresh {s : Store} (recorded : s.Recorded) {row : PoolAmount}
    (keyed : row.Keyed) : s.Vacant row.pairAddress row.time ↔ Fresh s.poolAmounts row := by
  constructor
  · intro vacant o member same
    obtain ⟨time, pair⟩ := ((recorded o member).1.key_eq_iff keyed).mp same
    exact vacant o member pair time
  · intro fresh o member pair time
    exact fresh o member (((recorded o member).1.key_eq_iff keyed).mpr ⟨time, pair⟩)

/-- What is latest of a pair once a chunk's history is added to the rows below it. -/
theorem latest_after {checkpoint : Nat} {pairs : List Pair} {pools : Snapshot} {pair : Pair}
    {last : Event} {s s' : Store} (continues : chunk.Continues checkpoint)
    (known : findByAddress pairs pair.address = some pair)
    (isLast : ((Tx.parseAll chunk.txs).filter (·.touches pair.address)).getLast? = some last)
    (recorded : s.Recorded) (below : ∀ o ∈ s.poolAmounts, o.height ≤ checkpoint)
    (added : s'.poolAmounts = (poolHistory (Tx.parseAll chunk.txs) pairs pools).foldl
      (addNew PoolAmount.key) s.poolAmounts) :
    ∃ latest, s'.latestPoolAmounts.filter (·.pairAddress == pair.address) = [latest] ∧
      (latest = pools.finalRow pair (Tx.parseAll chunk.txs) last ↔
        s.Vacant pair.address last.time) ∧
      (¬ s.Vacant pair.address last.time → latest.height < last.height) := by
  have after : ∀ r ∈ s'.poolAmounts, r.pairAddress = pair.address → r.height < last.height ∨
      r = pools.finalRow pair (Tx.parseAll chunk.txs) last ∧ Fresh s.poolAmounts r :=
    fun r stored => rows_after continues known isLast below (added ▸ stored)
  have fresh : s.Vacant pair.address last.time ↔
      Fresh s.poolAmounts (pools.finalRow pair (Tx.parseAll chunk.txs) last) :=
    vacant_iff_fresh recorded (Reserves.row_keyed _ _ _)
  have distinct := poolHistory_distinct (Tx.parseAll chunk.txs) pairs pools
  have final := finalRow_mem (s := pools) known isLast
  have inserted : s.Vacant pair.address last.time →
      pools.finalRow pair (Tx.parseAll chunk.txs) last ∈ s'.poolAmounts := by
    intro vacant
    rw [added]
    exact (mem_foldl_addNew distinct).mpr (.inr ⟨final, fresh.mp vacant⟩)
  have present : ∃ row ∈ s'.poolAmounts, row.pairAddress = pair.address := by
    by_cases vacant : s.Vacant pair.address last.time
    · exact ⟨_, inserted vacant, rfl⟩
    · have taken : ∃ row ∈ s.poolAmounts, row.pairAddress = pair.address ∧ row.time = last.time := by
        simpa [Store.Vacant] using vacant
      obtain ⟨row, member, its, _⟩ := taken
      refine ⟨row, ?_, its⟩
      rw [added]
      exact (mem_foldl_addNew distinct).mpr (.inl member)
  -- either way the pair has a row, and with it exactly one latest row
  obtain ⟨row, stored, its⟩ := present
  obtain ⟨latest, only, member, same, above⟩ := Store.latestPoolAmounts_row stored its
  refine ⟨latest, only, ⟨fun is => ?_, fun vacant => ?_⟩, fun taken => ?_⟩
  · rcases after latest member same with lower | ⟨_, free⟩
    · rw [is] at lower
      exact absurd lower (Nat.lt_irrefl _)
    · rw [is] at free
      exact fresh.mpr free
  · rcases after latest member same with lower | ⟨is, _⟩
    · exact absurd (PoolAmount.earlier_iff.mpr (.inl lower)) (above _ (inserted vacant) rfl)
    · exact is
  · rcases after latest member same with lower | ⟨is, free⟩
    · exact lower
    · rw [is] at free
      exact absurd (fresh.mpr free) taken

/-- After an accepted chunk the latest row of a pair is that of its last event in the chunk, with
what the events of the chunk make of the pair's reserves at the checkpoint, if and only if the
store had no row of the pair at that time. If it had one, the event is lost: the latest row lies
below it. -/
theorem latest_reserves (indexed : Indexed config i)
    (continues : chunk.Continues i.run.checkpoint)
    (taken : Indexer.process config chain Store.backend chunk i = .ok (true, i')) {pair : Pair}
    (registered : pair ∈ Registry.pairs i.world.registry) {last : Event}
    (isLast : ((Tx.parseAll chunk.txs).filter (·.touches pair.address)).getLast? = some last) :
    ∃ answers pools latest,
      chain.pools ((Registry.pairs i.world.registry).map (·.address)) i.run.checkpoint
        = .ok answers ∧
      pools = Snapshot.ofAnswers (Registry.pairs i.world.registry) answers i.run.checkpoint ∧
      i'.world.store.latestPoolAmounts.filter (·.pairAddress == pair.address) = [latest] ∧
      (latest = pools.finalRow pair (Tx.parseAll chunk.txs) last ↔
        i.world.store.Vacant pair.address last.time) ∧
      (¬ i.world.store.Vacant pair.address last.time → latest.height < last.height) := by
  obtain ⟨lastMember, _⟩ := last_mem isLast
  obtain ⟨running, cases⟩ := Indexer.process_accepted Store.backend_mirrors taken
  obtain ⟨truth, ready⟩ := indexed_ready indexed running
  obtain ⟨listed, _, registry⟩ := ready.registered
  have known : findByAddress (Registry.pairs i.world.registry) pair.address = some pair := by
    rw [registry] at registered ⊢
    exact Registry.findByAddress_pairs registered
  have recorded := indexed_recorded indexed
  have below : ∀ o ∈ i.world.store.poolAmounts, o.height ≤ i.run.checkpoint := by
    intro o member
    obtain ⟨checkpoint, stored, bound⟩ := (recorded o member).2
    have same : i.run.checkpoint = checkpoint := Option.some.inj (ready.stored.symm.trans stored)
    omega
  rcases cases with ⟨passed, rfl⟩ | ⟨_, write, u, built, committed⟩
  · obtain ⟨tx, among, _⟩ := Tx.mem_parseAll.mp lastMember
    have above := continues.above tx among
    have within := continues.within tx among
    omega
  · rcases Indexer.buildChunk_ok built with ⟨empty, _⟩ | ⟨_, answers, derived, answered, derives, _, rfl⟩
    · rw [empty] at lastMember
      cases lastMember
    · have history : derived.poolAmounts = _ := (Indexer.derive_ok derives).2
      have added := Store.commit_poolAmounts committed
      change _ = derived.poolAmounts.foldl _ _ at added
      rw [history] at added
      obtain ⟨latest, found⟩ := latest_after continues known isLast recorded below added
      exact ⟨answers, _, latest, answered, rfl, found⟩

/-! Two swaps within one second, in blocks on both sides of a chunk's end. -/

def swapPair : Pair where
  base := .native hubDenom
  quote := .token usdtContract
  address := "pair"
  liquidityToken := "lp"

/-- What the pool holds once it has taken an amount of the base asset in and paid another one of
the quote asset out. -/
def swapPool (received paid : Int) : Pool :=
  ⟨[⟨swapPair.base, 1000000 + received⟩, ⟨swapPair.quote, 2000000 - paid⟩], 1000⟩

/-- The chain, on which the first swap takes place at height 199. -/
def swapChain : Chain where
  pools _ height := .ok [some (if height < 199 then swapPool 0 0 else swapPool 10 19)]
  factory _ := .ok [swapPair]
  supply _ _ := .error "no supply"
  bond _ _ := .error "no bond"
  rewards _ _ := .error "no rewards"

def swapConfig : IndexerConfig where
  factories := ["factory"]
  hub := hubDenom
  usdt := usdtContract
  fees := { taxRate := .zero, taxCap := 0 }
  startHeight := 100
  maxChunkAttempts := 3

def swapTx (height : Nat) (paid : String) : Tx where
  hash := "A"
  height := height
  timestamp := "2023-07-12T15:13:01Z"
  code := 0
  messages := [
    { typeUrl := executeTypeUrl
      sender := "alice"
      body := .obj [("swap", .obj [("offer_asset", .obj [("amount", .str "10"),
        ("info", .obj [("native_token", .obj [("denom", .str hubDenom)])])])])]
      events := [⟨"wasm", [⟨contractKey, swapPair.address⟩, ⟨"action", "swap"⟩,
        ⟨"offer_asset", hubDenom⟩, ⟨"ask_asset", usdtContract⟩, ⟨"offer_amount", "10"⟩,
        ⟨"return_amount", paid⟩]⟩] }]

def firstChunk : Chunk := ⟨[swapTx 199 "19"], 199⟩

def secondChunk : Chunk := ⟨[swapTx 200 "18"], 299⟩

def swapEvent (height : Nat) (paid : Int) : Event := .swap {
  key := RowKey.operation 1689174781 hubDenom 10 usdtContract paid
  txHash := "A"
  height := height
  time := 1689174781
  pairAddress := swapPair.address
  sender := "alice"
  offerDenom := hubDenom
  offerAmount := 10
  askDenom := usdtContract
  returnAmount := paid }

def swapSeeded : Indexer Store :=
  Indexer.after (.start {}) (Indexer.seed swapConfig swapChain Store.backend (0 : Int) (.start {}))

def swapTaken (chunk : Chunk) (i : Indexer Store) : Indexer Store :=
  Indexer.after i (Indexer.process swapConfig swapChain Store.backend chunk i)

theorem swap_seeded : Indexed swapConfig swapSeeded := by
  have empty : Store.Recorded {} := fun _ absent => nomatch absent
  exact .seed (.start empty) (Indexer.seeded_after _ (by decide +kernel))

theorem first_taken : Indexer.process swapConfig swapChain Store.backend firstChunk swapSeeded =
    .ok (true, swapTaken firstChunk swapSeeded) := Indexer.taken_after _ (by decide +kernel)

theorem second_taken :
    Indexer.process swapConfig swapChain Store.backend secondChunk (swapTaken firstChunk swapSeeded)
      = .ok (true, swapTaken secondChunk (swapTaken firstChunk swapSeeded)) :=
  Indexer.taken_after _ (by decide +kernel)

theorem swap_continues {height newHeight checkpoint : Nat} (paid : String)
    (above : checkpoint < height) (within : height ≤ newHeight) :
    Chunk.Continues ⟨[swapTx height paid], newHeight⟩ checkpoint where
  above := by simpa [swapTx] using above
  within := by simpa [swapTx] using within
  timed := by simp

/-- The first swap is the latest change of its pair. -/
theorem latest_reserves_swap :
    ∃ latest, (swapTaken firstChunk swapSeeded).world.store.latestPoolAmounts.filter
        (·.pairAddress == swapPair.address) = [latest] ∧
      (latest.height, latest.base, latest.quote) = (199, 1000010, 1999981) := by
  have checkpoint : swapSeeded.run.checkpoint = 100 := by decide +kernel
  have pairs : Registry.pairs swapSeeded.world.registry = [swapPair] := by decide +kernel
  have continues : firstChunk.Continues swapSeeded.run.checkpoint := by
    rw [checkpoint]
    exact swap_continues "19" (by decide) (by decide)
  have isLast : ((Tx.parseAll firstChunk.txs).filter (·.touches swapPair.address)).getLast? =
      some (swapEvent 199 19) := by decide +kernel
  obtain ⟨answers, pools, latest, answered, same, only, exactly, _⟩ :=
    latest_reserves swap_seeded continues first_taken (by simp [pairs]) isLast
  have vacant : swapSeeded.world.store.Vacant swapPair.address (swapEvent 199 19).time := by
    have rows : ∀ row ∈ swapSeeded.world.store.poolAmounts, row.time ≠ (swapEvent 199 19).time := by
      decide +kernel
    exact fun row member _ => rows row member
  refine ⟨latest, only, ?_⟩
  rw [exactly.mpr vacant, same, pairs, checkpoint]
  rw [checkpoint] at answered
  cases answered
  decide +kernel

/-- The second swap is accepted, and lost: the latest row of its pair is that of the first one. -/
theorem second_swap_lost :
    Indexed swapConfig (swapTaken firstChunk swapSeeded) ∧
      secondChunk.Continues (swapTaken firstChunk swapSeeded).run.checkpoint ∧
      Indexer.process swapConfig swapChain Store.backend secondChunk
          (swapTaken firstChunk swapSeeded)
        = .ok (true, swapTaken secondChunk (swapTaken firstChunk swapSeeded)) ∧
      Registry.pairs (swapTaken firstChunk swapSeeded).world.registry = [swapPair] ∧
      ((Tx.parseAll secondChunk.txs).filter (·.touches swapPair.address)).getLast?
        = some (swapEvent 200 18) ∧
      swapChain.pools [swapPair.address] 199 = .ok [some (swapPool 10 19)] ∧
      (((Snapshot.ofAnswers [swapPair] [some (swapPool 10 19)] 199).finalRow swapPair
          (Tx.parseAll secondChunk.txs) (swapEvent 200 18)).base,
        ((Snapshot.ofAnswers [swapPair] [some (swapPool 10 19)] 199).finalRow swapPair
          (Tx.parseAll secondChunk.txs) (swapEvent 200 18)).quote) = (1000020, 1999963) ∧
      (swapTaken secondChunk (swapTaken firstChunk swapSeeded)).world.store.latestPoolAmounts.map
          (fun row => (row.height, row.base, row.quote)) = [(199, 1000010, 1999981)] := by
  have checkpoint : (swapTaken firstChunk swapSeeded).run.checkpoint = 199 := by decide +kernel
  have within : ∀ tx ∈ firstChunk.txs, tx.height ≤ firstChunk.newHeight := by decide
  refine ⟨.process swap_seeded within first_taken, ?_, second_taken, ?_, ?_, rfl, ?_, ?_⟩
  · rw [checkpoint]
    exact swap_continues "18" (by decide) (by decide)
  · decide +kernel
  · decide +kernel
  · decide +kernel
  · decide +kernel

end LatestReserves
end PoolIndexer
