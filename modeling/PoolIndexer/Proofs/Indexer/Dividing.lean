import PoolIndexer.Proofs.LatestReserves
import PoolIndexer.Proofs.Solvency

/-! Where taking a chunk divides by zero: exactly where its events leave the pool of a pair that
yields are priced by in want of the simulated offer, for which a swap has to offer a negative
amount. -/
namespace PoolIndexer

/-- No pool that the chain answers with has a negative reserve. -/
def Chain.Solvent (chain : Chain) : Prop :=
  ∀ {addresses height answers}, chain.pools addresses height = .ok answers →
    ∀ pool, some pool ∈ answers → pool.Solvent

namespace Indexer

variable {σ : Type} {config : IndexerConfig} {chain : Chain} {chunk : Chunk} {w : World σ}

/-! ## Steps -/

theorem resolvePools_sturdy (chain : Chain) (pairs : List Pair) (height : Nat) :
    Task.Sturdy (resolvePools chain pairs height : Task σ Snapshot) :=
  (Task.sturdy_ask _ _).bind fun _ => (Task.sturdy_need _ _).bind fun _ => Task.sturdy_pure _

theorem resolvePools_answered {pairs : List Pair} {height : Nat} {answers : List (Option Pool)}
    (answered : chain.pools (pairs.map (·.address)) height = .ok answers) (w : World σ) :
    ∃ v, resolvePools chain pairs height w = (.ok (.ofAnswers pairs answers height), v) :=
  ⟨_, Task.bind_ok.mpr ⟨_, _, Task.ask_ok.mpr ⟨rfl, rfl⟩, Task.bind_ok.mpr
    ⟨answers, _, Task.need_ok.mpr ⟨answered, rfl⟩, rfl⟩⟩⟩

theorem fetchAprInput_sturdy (chain : Chain) (height : Nat) (pair : Pair) :
    Task.Sturdy (fetchAprInput chain height pair : Task σ _) := by
  refine (Task.sturdy_ask _ _).bind fun supply => ?_
  cases supply with
  | error e => exact Task.sturdy_pure _
  | ok supply =>
    refine (Task.sturdy_ask _ _).bind fun bond => ?_
    cases bond with
    | error e => exact Task.sturdy_pure _
    | ok bond =>
      refine (Task.sturdy_ask _ _).bind fun rewards => ?_
      cases rewards with
      | error e => exact Task.sturdy_pure _
      | ok rewards => exact Task.sturdy_pure _

/-- Of all that yields are computed by, only a price can fail. -/
theorem poolAprs_breaks {pairs : List Pair} {pools : Snapshot} {height : Nat} {time : Int} :
    Task.Breaks (poolAprs config chain pairs pools height time) w ↔
      ∃ pair, PriceBook.Defines config.hub config.usdt pairs pair ∧
        PriceBook.Blocked pools pair := by
  unfold poolAprs
  split
  · rename_i empty
    rw [List.isEmpty_iff.mp empty]
    constructor
    · exact fun stopped => absurd stopped (Task.sturdy_pure _ w)
    · rintro ⟨pair, defines, _⟩
      exact absurd defines (PriceBook.defines_nil pair)
  · rw [Task.bind_breaks, Task.compute_breaks, PriceBook.resolve_ok]
    constructor
    · rintro (unpriced | ⟨book, u, _, later⟩)
      · simpa using unpriced
      · obtain ⟨inputs, v, _, computing⟩ :=
          (Task.Sturdy.mapM (fetchAprInput_sturdy chain height) pairs).bind_breaks.mp later
        exact absurd (aprRows_ok (settled inputs) pools book height time)
          (Task.compute_breaks.mp computing)
    · rintro ⟨pair, defines, blocked⟩
      exact .inl fun regular => regular pair defines blocked

/-- The events of the chunk leave the pool of a pair singular that the yields of the touched pairs
are priced by. -/
def Drains (config : IndexerConfig) (chain : Chain) (chunk : Chunk) (checkpoint : Nat)
    (pairs : List Pair) : Prop :=
  ∃ answers write, chain.pools (pairs.map (·.address)) checkpoint = .ok answers ∧
    derive config (Tx.parseAll chunk.txs) chunk.newHeight pairs
      (.ofAnswers pairs answers checkpoint) = .ok write ∧
    ∃ pair, PriceBook.Defines config.hub config.usdt (touchedPairs write pairs) pair ∧
      PriceBook.Blocked
        ((Snapshot.ofAnswers pairs answers checkpoint).withHistory pairs write.poolAmounts) pair

theorem touchedPairs_nil {newHeight : Nat} {pairs : List Pair} {pools : Snapshot}
    {write : ChunkWrite} (derived : derive config [] newHeight pairs pools = .ok write) :
    touchedPairs write pairs = [] := by
  obtain ⟨book, changes, _, mapped, rfl⟩ := derive_cases derived
  cases mapped
  simp [touchedPairs, accumulateHoldings, accumulateHoldings.go]

section

variable (rate : 0 ≤ config.fees.taxRate.digits)
include rate

theorem derive_succeeds (events : List Event) (newHeight : Nat) (pairs : List Pair)
    {pools : Snapshot} (solvent : pools.Solvent) :
    ∃ write, derive config events newHeight pairs pools = .ok write := by
  have priced : ∃ book, PriceBook.resolve config.hub config.usdt pairs pools = .ok book :=
    PriceBook.resolve_ok.mpr fun pair _ => solvent.not_blocked pair
  obtain ⟨book, priced⟩ := priced
  obtain ⟨changes, taxed⟩ := Result.mapM_ok.mpr
    fun op (_ : op ∈ events.filterMap Event.liquidity?) => op.taxed_ok rate book pairs
  exact Result.exists_bind_ok.mpr ⟨book, priced, Result.exists_bind_ok.mpr ⟨changes, taxed, _, rfl⟩⟩

/-- The pools before the chunk are solvent, so that only the prices after it can fail. -/
theorem buildChunk_breaks (solvent : chain.Solvent) (checkpoint : Nat) :
    Task.Breaks (buildChunk config chain chunk checkpoint) w ↔
      Drains config chain chunk checkpoint (Registry.pairs w.registry) := by
  unfold buildChunk
  dsimp only
  split
  · rename_i empty
    constructor
    · exact fun stopped => absurd stopped (Task.sturdy_pure _ w)
    · rintro ⟨answers, write, _, derived, pair, defines, _⟩
      rw [List.isEmpty_iff.mp empty] at derived
      rw [touchedPairs_nil derived] at defines
      exact absurd defines (PriceBook.defines_nil pair)
  · rw [Task.sturdy_registered.bind_breaks]
    constructor
    · rintro ⟨registry, u, looked, resolving⟩
      obtain ⟨rfl, rfl⟩ := Task.registered_ok.mp looked
      obtain ⟨pools, v, resolved, pricing⟩ :=
        (resolvePools_sturdy _ _ _).bind_breaks.mp resolving
      obtain ⟨answers, answered, rfl⟩ := resolvePools_ok resolved
      rcases Task.bind_breaks.mp pricing with failing | ⟨write, x, computed, completing⟩
      · -- the chain's answers cannot block a pair: only the pools after the events can
        exact absurd (derive_succeeds rate _ _ _
          (Snapshot.ofAnswers_solvent (solvent answered) _ _)) (Task.compute_breaks.mp failing)
      · obtain ⟨derived, rfl⟩ := Task.compute_ok.mp computed
        refine ⟨answers, write, answered, derived, ?_⟩
        split at completing
        · exact absurd completing (Task.sturdy_pure _ _)
        · rcases Task.bind_breaks.mp completing with failing | ⟨aprs, y, _, last⟩
          · exact poolAprs_breaks.mp failing
          · exact absurd last (Task.sturdy_pure _ _)
    · rintro ⟨answers, write, answered, derived, pair, defines, blocked⟩
      obtain ⟨v, resolved⟩ := resolvePools_answered answered w
      refine ⟨_, w, rfl, (resolvePools_sturdy _ _ _).bind_breaks.mpr ⟨_, v, resolved, ?_⟩⟩
      refine Task.bind_breaks.mpr (.inr ⟨write, v, Task.compute_ok.mpr ⟨derived, rfl⟩, ?_⟩)
      split
      · rename_i untouched
        rw [List.isEmpty_iff.mp untouched] at defines
        exact absurd defines (PriceBook.defines_nil pair)
      · exact Task.bind_breaks.mpr (.inl (poolAprs_breaks.mpr ⟨pair, defines, blocked⟩))

/-! ## Chunks -/

omit rate in
theorem indexChunk_breaks (backend : Backend σ) {checkpoint : Nat} :
    Task.Breaks (indexChunk config chain backend chunk checkpoint) w ↔
      Task.Breaks (buildChunk config chain chunk checkpoint) w := by
  unfold indexChunk
  rw [Task.bind_breaks]
  constructor
  · rintro (building | ⟨write, u, _, committing⟩)
    · exact building
    · exact absurd committing (Task.sturdy_perform _ _ u)
  · exact .inl

omit rate in
theorem process_error {backend : Backend σ} {i : Indexer σ} :
    process config chain backend chunk i = .error .divisionByZero ↔
      i.run.phase = .running ∧ i.run.checkpoint < chunk.newHeight ∧
      Task.Breaks (buildChunk config chain chunk i.run.checkpoint) i.world := by
  rw [← indexChunk_breaks backend, Task.Breaks]
  unfold process
  split
  · rename_i idle
    simp [idle]
  · rename_i idle
    have running : i.run.phase = .running := Decidable.not_not.mp idle
    split
    · rename_i passed
      simp [Nat.not_lt.mpr passed]
    · rename_i ahead
      rcases indexChunk config chain backend chunk i.run.checkpoint i.world with
        ⟨(texts | e) | done, world⟩
      · simp
      · cases e
        exact iff_of_true rfl ⟨running, Nat.lt_of_not_le ahead, .divisionByZero, world, rfl⟩
      · simp

theorem process_divides (solvent : chain.Solvent) {backend : Backend σ} {i : Indexer σ} :
    process config chain backend chunk i = .error .divisionByZero ↔
      i.run.phase = .running ∧ i.run.checkpoint < chunk.newHeight ∧
      Drains config chain chunk i.run.checkpoint (Registry.pairs i.world.registry) := by
  rw [process_error, buildChunk_breaks rate solvent]

omit rate in
/-- Without negative offers the pools stay solvent. -/
theorem not_drains (solvent : chain.Solvent) (checkpoint : Nat) (pairs : List Pair)
    (offers : ∀ op, Event.swap op ∈ Tx.parseAll chunk.txs → 0 ≤ op.offerAmount) :
    ¬ Drains config chain chunk checkpoint pairs := by
  rintro ⟨answers, write, answered, derived, pair, _, blocked⟩
  have deposits : ∀ event ∈ Tx.parseAll chunk.txs, event.Deposits := by
    intro event member
    obtain ⟨tx, _, its⟩ := Tx.mem_parseAll.mp member
    exact Tx.events_deposit its fun op same => offers op (same ▸ member)
  rw [(derive_ok derived).2] at blocked
  have before := Snapshot.ofAnswers_solvent (solvent answered) pairs checkpoint
  exact (Snapshot.replayed_solvent before pairs deposits).not_blocked pair blocked

/-- Taking a chunk divides by zero if and only if its events drain a pool. They do not where no
swap offers a negative amount, and every other divisor is guarded. -/
theorem divides_iff_drains (solvent : chain.Solvent) (backend : Backend σ) (chunk : Chunk)
    (i : Indexer σ) :
    (process config chain backend chunk i = .error .divisionByZero ↔
      i.run.phase = .running ∧ i.run.checkpoint < chunk.newHeight ∧
      Drains config chain chunk i.run.checkpoint (Registry.pairs i.world.registry)) ∧
    ((∀ op, Event.swap op ∈ Tx.parseAll chunk.txs → 0 ≤ op.offerAmount) →
      ∃ taken, process config chain backend chunk i = .ok taken) ∧
    (∀ (book : PriceBook) (pool : Pool), pool.totalShare ≠ 0 →
      ∃ value, (book.liquidity pool).div (.ofInt pool.totalShare) = .ok value) ∧
    ∀ (amount : Int) (places : Nat),
      ∃ shown, (Decimal.ofInt amount).div (.ofInt (tenTo places)) = .ok shown := by
  have divides : process config chain backend chunk i = .error .divisionByZero ↔ _ :=
    process_divides rate solvent
  refine ⟨divides, fun offers => ?_, fun book pool => book.sharePrice_divides,
    Decimal.display_divides⟩
  cases taken : process config chain backend chunk i with
  | ok result => exact ⟨result, rfl⟩
  | error e =>
    cases e
    exact absurd (divides.mp taken).2.2 (not_drains solvent _ _ offers)

end

/-! A swap whose offer is a negative amount, and leaves the pool in want of the simulated offer. -/

open LatestReserves (swapPair swapPool swapChain swapConfig swapTx swapSeeded firstChunk swapEvent)

def drainTx (offered : String) : Tx :=
  { swapTx 150 "5" with
    messages := (swapTx 150 "5").messages.map fun message => { message with
      events := [⟨"wasm", [⟨contractKey, swapPair.address⟩, ⟨"action", "swap"⟩,
        ⟨"offer_asset", hubDenom⟩, ⟨"ask_asset", usdtContract⟩, ⟨"offer_amount", offered⟩,
        ⟨"return_amount", "5"⟩]⟩] } }

def drainChunk : Chunk := ⟨[drainTx "-11000000"], 199⟩

theorem swapChain_solvent : swapChain.Solvent := by
  intro addresses height answers answered pool member
  cases answered
  have filled : (swapPool 0 0).Solvent ∧ (swapPool 10 19).Solvent := by
    simp [Pool.Solvent, swapPool]
  simp only [List.mem_singleton, Option.some.injEq] at member
  subst member
  split
  · exact filled.1
  · exact filled.2

theorem drain_stops : process swapConfig swapChain Store.backend drainChunk swapSeeded =
    .error .divisionByZero := by
  have stops : (process swapConfig swapChain Store.backend drainChunk swapSeeded).toOption.isNone :=
    by decide +kernel
  cases taken : process swapConfig swapChain Store.backend drainChunk swapSeeded with
  | error e =>
    cases e
    rfl
  | ok result => simp [taken, Except.toOption] at stops

/-- The ordinary swap is taken, and the other one drains the pool. -/
theorem divides_iff_drains_swap :
    (∃ taken, process swapConfig swapChain Store.backend firstChunk swapSeeded = .ok taken) ∧
      Drains swapConfig swapChain drainChunk 100 [swapPair] := by
  have rate : 0 ≤ swapConfig.fees.taxRate.digits := by decide
  have checkpoint : swapSeeded.run.checkpoint = 100 := by decide +kernel
  have pairs : Registry.pairs swapSeeded.world.registry = [swapPair] := by decide +kernel
  have events : Tx.parseAll firstChunk.txs = [swapEvent 199 19] := by decide +kernel
  obtain ⟨_, taken, _⟩ :=
    divides_iff_drains rate swapChain_solvent Store.backend firstChunk swapSeeded
  obtain ⟨divides, _⟩ :=
    divides_iff_drains rate swapChain_solvent Store.backend drainChunk swapSeeded
  refine ⟨taken fun op member => ?_, ?_⟩
  · rw [events, List.mem_singleton] at member
    cases member
    decide
  · rw [← checkpoint, ← pairs]
    exact (divides.mp drain_stops).2.2

/-- No answer of the chain and no rate is negative, and yet the chunk stops the indexer. -/
theorem drain_divides : swapChain.Solvent ∧ 0 ≤ swapConfig.fees.taxRate.digits ∧
    swapSeeded.run.phase = .running ∧
    process swapConfig swapChain Store.backend drainChunk swapSeeded = .error .divisionByZero :=
  ⟨swapChain_solvent, by decide, by decide +kernel, drain_stops⟩

end Indexer
end PoolIndexer
