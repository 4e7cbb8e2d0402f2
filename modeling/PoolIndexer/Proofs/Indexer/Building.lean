import PoolIndexer.Indexer
import PoolIndexer.Proofs.Ledger
import PoolIndexer.Proofs.Task

/-! What building a chunk comes to. It changes neither the store nor the registered pairs, and all
that it writes but the yields is decided by the transactions, the registered pairs and the pools
at the checkpoint. -/
namespace PoolIndexer

/-- A chain that answers a query as another does, wherever it answers it. -/
structure Chain.Follows (chain truth : Chain) : Prop where
  pools : ∀ {addresses height answers},
    chain.pools addresses height = .ok answers → truth.pools addresses height = .ok answers
  factory : ∀ {address pairs}, chain.factory address = .ok pairs → truth.factory address = .ok pairs
  supply : ∀ {token height n},
    chain.supply token height = .ok n → truth.supply token height = .ok n
  bond : ∀ {token height n}, chain.bond token height = .ok n → truth.bond token height = .ok n
  rewards : ∀ {token height assets},
    chain.rewards token height = .ok assets → truth.rewards token height = .ok assets

theorem Chain.follows_self (chain : Chain) : chain.Follows chain := ⟨id, id, id, id, id⟩

namespace Indexer

variable {σ τ : Type}

/-! ## Nothing is changed -/

theorem ask_unchanged {α : Type} (query : ChainQuery) (answer : Except String α) :
    Task.Respects (World.Unchanged (σ := σ)) (Task.ask query answer) := fun _ => ⟨rfl, rfl⟩

theorem resolvePools_unchanged (chain : Chain) (pairs : List Pair) (height : Nat) :
    Task.Respects (World.Unchanged (σ := σ)) (resolvePools chain pairs height) :=
  (ask_unchanged _ _).bind fun _ => (Task.respects_need _ _).bind fun _ => Task.respects_pure _

theorem fetchAprInput_unchanged (chain : Chain) (height : Nat) (pair : Pair) :
    Task.Respects (World.Unchanged (σ := σ)) (fetchAprInput chain height pair) := by
  refine (ask_unchanged _ _).bind fun supply => ?_
  cases supply with
  | error e => exact Task.respects_pure _
  | ok supply =>
    refine (ask_unchanged _ _).bind fun bond => ?_
    cases bond with
    | error e => exact Task.respects_pure _
    | ok bond =>
      refine (ask_unchanged _ _).bind fun rewards => ?_
      cases rewards <;> exact Task.respects_pure _

theorem poolAprs_unchanged (config : IndexerConfig) (chain : Chain) (pairs : List Pair)
    (pools : Snapshot) (height : Nat) (time : Int) :
    Task.Respects (World.Unchanged (σ := σ))
      (poolAprs config chain pairs pools height time) := by
  unfold poolAprs
  split
  · exact Task.respects_pure _
  · exact (Task.respects_compute _).bind fun _ =>
      (Task.Respects.mapM (fetchAprInput_unchanged chain height) pairs).bind fun _ =>
        Task.respects_compute _

/-- Building a chunk asks the chain and nothing else. -/
theorem buildChunk_unchanged (config : IndexerConfig) (chain : Chain) (chunk : Chunk)
    (checkpoint : Nat) :
    Task.Respects (World.Unchanged (σ := σ)) (buildChunk config chain chunk checkpoint) := by
  unfold buildChunk
  dsimp only
  split
  · exact Task.respects_pure _
  · refine Task.respects_registered.bind fun registry => ?_
    refine (resolvePools_unchanged _ _ _).bind fun pools => ?_
    refine (Task.respects_compute _).bind fun w => ?_
    split
    · exact Task.respects_pure _
    · exact (poolAprs_unchanged _ _ _ _ _ _).bind fun _ => Task.respects_pure _

/-! ## What is built -/

theorem resolvePools_ok {chain : Chain} {pairs : List Pair} {height : Nat} {w v : World σ}
    {pools : Snapshot} (resolved : resolvePools chain pairs height w = (.ok pools, v)) :
    ∃ answers, chain.pools (pairs.map (·.address)) height = .ok answers ∧
      pools = .ofAnswers pairs answers height := by
  obtain ⟨answer, u, asked, needing⟩ := Task.bind_ok.mp resolved
  obtain ⟨rfl, rfl⟩ := Task.ask_ok.mp asked
  obtain ⟨answers, u, needed, given⟩ := Task.bind_ok.mp needing
  obtain ⟨answered, rfl⟩ := Task.need_ok.mp needed
  cases given
  exact ⟨answers, answered, rfl⟩

section

variable {config : IndexerConfig} {events : List Event} {newHeight : Nat} {pairs : List Pair}
  {pools : Snapshot} {write : ChunkWrite}

/-- Only prices and fees can keep rows from being derived, and all but the changes of liquidity are
had of the events as they stand. -/
theorem derive_cases (derived : derive config events newHeight pairs pools = .ok write) :
    ∃ book changes, PriceBook.resolve config.hub config.usdt pairs pools = .ok book ∧
      (events.filterMap Event.liquidity?).mapM (·.taxed config.fees book pairs) = .ok changes ∧
      write = {
        newHeight
        swaps := (events.filterMap Event.swap?).map (·.valued book)
        changes := accumulateHoldings pools changes
        candles := buildCandles ((events.filterMap Event.swap?).map (·.valued book)) pairs
        stakes := (events.filterMap Event.stake?).map (·.valued book pairs pools)
        earnings := (events.filterMap Event.earn?).map (·.valued book)
        poolAmounts := poolHistory events pairs pools } := by
  obtain ⟨book, priced, changing⟩ := Result.bind_ok.mp derived
  obtain ⟨changes, taxed, given⟩ := Result.bind_ok.mp changing
  cases given
  exact ⟨book, changes, priced, taxed, rfl⟩

theorem derive_ok (derived : derive config events newHeight pairs pools = .ok write) :
    write.newHeight = newHeight ∧ write.poolAmounts = poolHistory events pairs pools := by
  obtain ⟨book, changes, _, _, rfl⟩ := derive_cases derived
  exact ⟨rfl, rfl⟩

theorem derive_aprs (derived : derive config events newHeight pairs pools = .ok write) :
    write.poolAprs = [] := by
  obtain ⟨book, changes, _, _, rfl⟩ := derive_cases derived
  rfl

end

/-- A chunk without events writes its height alone. Any other is derived from the pools that the
chain gives for the registered pairs at the checkpoint, and completed by the yields of the pairs
that it touches, against the pools after it. -/
theorem buildChunk_completed {config : IndexerConfig} {chain : Chain} {chunk : Chunk}
    {checkpoint : Nat} {w v : World σ} {write : ChunkWrite}
    (built : buildChunk config chain chunk checkpoint w = (.ok write, v)) :
    (Tx.parseAll chunk.txs = [] ∧ write = { newHeight := chunk.newHeight }) ∨
    Tx.parseAll chunk.txs ≠ [] ∧ ∃ answers derived,
      chain.pools ((Registry.pairs w.registry).map (·.address)) checkpoint = .ok answers ∧
      derive config (Tx.parseAll chunk.txs) chunk.newHeight (Registry.pairs w.registry)
        (.ofAnswers (Registry.pairs w.registry) answers checkpoint) = .ok derived ∧
      write = { derived with poolAprs := write.poolAprs } ∧
      ∃ u, poolAprs config chain (touchedPairs derived (Registry.pairs w.registry))
        ((Snapshot.ofAnswers (Registry.pairs w.registry) answers checkpoint).withHistory
          (Registry.pairs w.registry) derived.poolAmounts)
        chunk.newHeight (latestTime (Tx.parseAll chunk.txs)) u = (.ok write.poolAprs, v) := by
  unfold buildChunk at built
  dsimp only at built
  split at built
  · rename_i empty
    cases built
    exact .inl ⟨List.isEmpty_iff.mp empty, rfl⟩
  · rename_i filled
    obtain ⟨registry, u, looked, resolving⟩ := Task.bind_ok.mp built
    obtain ⟨rfl, rfl⟩ := Task.registered_ok.mp looked
    obtain ⟨pools, u, resolved, afterPools⟩ := Task.bind_ok.mp resolving
    obtain ⟨answers, answered, rfl⟩ := resolvePools_ok resolved
    obtain ⟨derived, u, computed, completing⟩ := Task.bind_ok.mp afterPools
    obtain ⟨derives, rfl⟩ := Task.compute_ok.mp computed
    refine .inr ⟨by simpa using filled, answers, derived, answered, derives, ?_⟩
    split at completing
    · rename_i untouched
      cases completing
      refine ⟨rfl, v, ?_⟩
      rw [List.isEmpty_iff.mp untouched, derive_aprs derives]
      rfl
    · obtain ⟨aprs, u, yielded, completed⟩ := Task.bind_ok.mp completing
      cases completed
      exact ⟨rfl, _, yielded⟩

theorem buildChunk_ok {config : IndexerConfig} {chain : Chain} {chunk : Chunk} {checkpoint : Nat}
    {w v : World σ} {write : ChunkWrite}
    (built : buildChunk config chain chunk checkpoint w = (.ok write, v)) :
    (Tx.parseAll chunk.txs = [] ∧ write = { newHeight := chunk.newHeight }) ∨
    Tx.parseAll chunk.txs ≠ [] ∧ ∃ answers derived,
      chain.pools ((Registry.pairs w.registry).map (·.address)) checkpoint = .ok answers ∧
      derive config (Tx.parseAll chunk.txs) chunk.newHeight (Registry.pairs w.registry)
        (.ofAnswers (Registry.pairs w.registry) answers checkpoint) = .ok derived ∧
      ∃ aprs, write = { derived with poolAprs := aprs } := by
  rcases buildChunk_completed built with empty |
    ⟨filled, answers, derived, answered, derives, same, _⟩
  · exact .inl empty
  · exact .inr ⟨filled, answers, derived, answered, derives, write.poolAprs, same⟩

/-- What is built reaches as far as the chunk. -/
theorem buildChunk_height {config : IndexerConfig} {chain : Chain} {chunk : Chunk}
    {checkpoint : Nat} {w v : World σ} {write : ChunkWrite}
    (built : buildChunk config chain chunk checkpoint w = (.ok write, v)) :
    write.newHeight = chunk.newHeight := by
  rcases buildChunk_ok built with ⟨_, rfl⟩ | ⟨_, _, derived, _, derives, _, rfl⟩
  · rfl
  · exact (derive_ok derives).1

/-- Two attempts at a chunk from the same registered pairs and checkpoint, with a chain that
answers alike both times, write the same but for the yields. -/
theorem buildChunk_agree {config : IndexerConfig} {truth chain chain' : Chain} {chunk : Chunk}
    {checkpoint : Nat} {w v : World σ} {w' v' : World τ} {write write' : ChunkWrite}
    (follows : chain.Follows truth) (follows' : chain'.Follows truth)
    (registry : w.registry = w'.registry)
    (built : buildChunk config chain chunk checkpoint w = (.ok write, v))
    (built' : buildChunk config chain' chunk checkpoint w' = (.ok write', v')) :
    write.withoutAprs = write'.withoutAprs := by
  rcases buildChunk_ok built with ⟨empty, rfl⟩ | ⟨filled, answers, derived, answered, derives, _, rfl⟩
  · rcases buildChunk_ok built' with ⟨_, rfl⟩ | ⟨filled, _⟩
    · rfl
    · exact absurd empty filled
  · rcases buildChunk_ok built' with ⟨empty, _⟩ | ⟨_, answers', derived', answered', derives', _, rfl⟩
    · exact absurd empty filled
    · rw [← registry] at answered' derives'
      have same : answers = answers' := Except.ok.inj <|
        (follows.pools answered).symm.trans (follows'.pools answered')
      subst same
      have same : derived = derived' := Except.ok.inj (derives.symm.trans derives')
      rw [same]
      rfl

end Indexer
end PoolIndexer
