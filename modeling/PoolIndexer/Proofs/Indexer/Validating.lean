import PoolIndexer.Proofs.Candle.Grouping
import PoolIndexer.Proofs.ChunkWrite
import PoolIndexer.Proofs.Indexer.Dividing
import PoolIndexer.Proofs.Indexer.Enriching

/-! Whether what is built of a chunk passes the check of its batches. Heights and times always fit,
so that it comes down to the prices of its swaps and to its yields. -/
namespace PoolIndexer

/-- The height and the time of the event fit their columns. -/
def Event.Stamped (event : Event) : Prop := PoolIndexer.Stamped event.height event.time

/-- Events of transactions at heights that fit have heights and times that fit. -/
theorem Tx.parseAll_stamped {txs : List Tx} (heights : ∀ tx ∈ txs, tx.height < twoTo 63) :
    ∀ event ∈ Tx.parseAll txs, event.Stamped := by
  intro event member
  obtain ⟨tx, among, its⟩ := Tx.mem_parseAll.mp member
  obtain ⟨height, read⟩ := Tx.events_at its
  exact ⟨by rw [height]; exact heights tx among, Timestamp.parse?_lt read⟩

namespace Indexer

variable {σ : Type} {config : IndexerConfig} {chain : Chain} {chunk : Chunk}

/-! ## What is derived of events -/

section

variable {events : List Event} {newHeight : Nat} {pairs : List Pair} {pools : Snapshot}
  {write : ChunkWrite}

theorem derive_fits (stamped : ∀ event ∈ events, event.Stamped)
    (derived : derive config events newHeight pairs pools = .ok write) :
    write.Fits ↔ ∀ op, Event.swap op ∈ events → op.Priced pairs := by
  obtain ⟨swaps, changes, stakes, earnings⟩ := (derive_records derived).dated stamped
  obtain ⟨book, _, _, _, rfl⟩ := derive_cases derived
  have priced : (∀ c ∈ buildCandles ((events.filterMap Event.swap?).map (·.valued book)) pairs,
      c.Fits) ↔ ∀ op, Event.swap op ∈ events → op.Priced pairs := by
    rw [buildCandles_valued, buildCandles_fits fun op member =>
      (stamped (.swap op) (by simpa using member)).1]
    simp
  rw [← priced]
  constructor
  · exact fun fits => fits.candles
  · intro candles
    refine ⟨swaps, changes, candles, stakes, earnings, ?_, by simp⟩
    intro row member
    obtain ⟨event, its, _, r, same⟩ := poolHistory_rows member
    rw [same]
    exact stamped event its

end

/-! ## Yields -/

theorem aprRow_at {input : AprInput} {pools : Snapshot} {book : PriceBook} {height : Nat}
    {time : Int} : Result.Yields (fun row : PoolApr => row.height = height ∧ row.time = time)
      (input.row pools book height time) :=
  Result.yields_bind fun _ => Result.yields_ok ⟨rfl, rfl⟩

theorem poolAprs_at {pairs : List Pair} {pools : Snapshot} {height : Nat} {time : Int} :
    Task.Yields (∀ row ∈ ·, row.height = height ∧ row.time = time)
      (poolAprs config chain pairs pools height time : Task σ (List PoolApr)) := by
  unfold poolAprs
  split
  · exact Task.yields_pure (by simp)
  · refine Task.Yields.bind fun book => Task.Yields.bind fun inputs => ?_
    refine Task.yields_compute fun rows done row member => ?_
    obtain ⟨input, _, made⟩ := Result.mem_mapM done member
    exact aprRow_at made

/-- The yields of a chunk are those of its last height and its latest time. -/
theorem buildChunk_aprs (config : IndexerConfig) (chain : Chain) (chunk : Chunk)
    (checkpoint : Nat) : Task.Yields
      (fun write => ∀ row ∈ write.poolAprs,
        row.height = chunk.newHeight ∧ row.time = latestTime (Tx.parseAll chunk.txs))
      (buildChunk config chain chunk checkpoint : Task σ ChunkWrite) := by
  unfold buildChunk
  dsimp only
  split
  · exact Task.yields_pure (by simp)
  · refine Task.Yields.bind fun registry => Task.Yields.bind fun pools => ?_
    refine Task.Yields.andThen (Task.yields_compute fun _ => derive_aprs) fun derived empty => ?_
    split
    · exact Task.yields_pure (by simp [empty])
    · exact Task.Yields.andThen poolAprs_at fun aprs here => Task.yields_pure here

theorem latestTime_lt {events : List Event} {bound : Int} (positive : 0 < bound)
    (below : ∀ event ∈ events, event.time < bound) : latestTime events < bound := by
  have greatest : ∀ (times : List Int) (t : Int), t < bound → (∀ u ∈ times, u < bound) →
      times.foldl max t < bound := by
    intro times
    induction times with
    | nil => exact fun t first _ => first
    | cons u rest ih =>
      intro t first others
      obtain ⟨second, later⟩ := List.forall_mem_cons.mp others
      exact ih (max t u) (by omega) later
  unfold latestTime
  cases events with
  | nil => exact positive
  | cons event rest =>
    obtain ⟨first, others⟩ := List.forall_mem_cons.mp below
    exact greatest _ _ first (by simpa using others)

/-! ## What is built -/

/-- What is built of a chunk passes the check exactly when its swaps have prices and its yields are
finite. -/
theorem buildChunk_fits {checkpoint : Nat} {w v : World σ} {write : ChunkWrite}
    (heights : ∀ tx ∈ chunk.txs, tx.height < twoTo 63) (reach : chunk.newHeight < twoTo 63)
    (built : buildChunk config chain chunk checkpoint w = (.ok write, v)) :
    write.Fits ↔
      (∀ op, Event.swap op ∈ Tx.parseAll chunk.txs → op.Priced (Registry.pairs w.registry)) ∧
      ∀ row ∈ write.poolAprs, row.apr.isFinite := by
  have stamped := Tx.parseAll_stamped heights
  have yielded : ∀ row ∈ write.poolAprs, Stamped row.height row.time := by
    intro row member
    obtain ⟨height, time⟩ := buildChunk_aprs config chain chunk checkpoint built row member
    rw [height, time]
    exact ⟨reach, latestTime_lt (by decide) fun event its => (stamped event its).2⟩
  rcases buildChunk_ok built with ⟨empty, rfl⟩ | ⟨_, answers, derived, _, derives, aprs, rfl⟩
  · rw [empty]
    refine iff_of_true ?_ (by simp)
    exact ⟨by simp, by simp, by simp, by simp, by simp, by simp, by simp⟩
  · have none := derive_aprs derives
    rw [← derive_fits stamped derives]
    constructor
    · intro whole
      refine ⟨⟨whole.swaps, whole.changes, whole.candles, whole.stakes, whole.earnings,
        whole.poolAmounts, by simp [none]⟩, fun row member => (whole.poolAprs row member).1⟩
    · rintro ⟨before, finite⟩
      exact ⟨before.swaps, before.changes, before.candles, before.stakes, before.earnings,
        before.poolAmounts, fun row member => ⟨finite row member, yielded row member⟩⟩

/-- What is built of a chunk passes the check, and a store takes it, exactly when the price of every
swap and every yield has a binary64. -/
theorem validated_iff_priced {checkpoint : Nat} {w v : World σ} {write : ChunkWrite}
    (heights : ∀ tx ∈ chunk.txs, tx.height < twoTo 63) (reach : chunk.newHeight < twoTo 63)
    (built : buildChunk config chain chunk checkpoint w = (.ok write, v)) :
    ((∃ batches, write.validatedBatches = .ok batches) ↔
      (∀ op, Event.swap op ∈ Tx.parseAll chunk.txs → op.Priced (Registry.pairs w.registry)) ∧
      ∀ row ∈ write.poolAprs, row.apr.isFinite) ∧
    ∀ s : Store, (∃ s', s.commit write = .ok s') ↔
      ∃ batches, write.validatedBatches = .ok batches := by
  have fits := ChunkWrite.validatedBatches_fits write
  refine ⟨fits.trans (buildChunk_fits heights reach built), fun s => ?_⟩
  exact (commit_fits s write).trans fits.symm

/-! A swap that pays out more than any binary64, next to an ordinary one. -/

open LatestReserves (swapPair swapChain swapConfig swapTx swapSeeded firstChunk swapEvent)

/-- The execution of the swap of a transaction. -/
def swapExecution (paid : String) : Execution :=
  ⟨swapPair.address, [⟨"action", "swap"⟩, ⟨"offer_asset", hubDenom⟩, ⟨"ask_asset", usdtContract⟩,
    ⟨"offer_amount", "10"⟩, ⟨"return_amount", paid⟩]⟩

theorem swapTx_events {paid : String} {n : Int} (read : parseAmount paid = .ok n) (height : Nat) :
    (swapTx height paid).events = [swapEvent height n] := by
  have swap : Harvest.swaps.events ⟨"A", height, 1689174781, "alice"⟩ (swapExecution paid) =
      .ok [swapEvent height n] := by
    refine Result.bind_ok.mpr ⟨_, Result.bind_ok.mpr ⟨hubDenom, rfl, ?_⟩, rfl⟩
    refine Result.bind_ok.mpr ⟨usdtContract, rfl, Result.bind_ok.mpr ⟨10, rfl, ?_⟩⟩
    refine Result.bind_ok.mpr ⟨n, read, Result.bind_ok.mpr ⟨0, rfl, ?_⟩⟩
    exact Result.bind_ok.mpr ⟨0, rfl, Result.bind_ok.mpr ⟨0, rfl, rfl⟩⟩
  have executed : [swapExecution paid].mapM
      (Harvest.swaps.events ⟨"A", height, 1689174781, "alice"⟩) = .ok [[swapEvent height n]] := by
    rw [List.mapM_cons]
    exact Result.bind_ok.mpr ⟨_, swap, rfl⟩
  have time : Timestamp.parse? "2023-07-12T15:13:01Z" = some 1689174781 := by decide +kernel
  have parsed : (swapTx height paid).parse = .ok [swapEvent height n] := by
    unfold Tx.parse
    rw [show (swapTx height paid).timestamp = "2023-07-12T15:13:01Z" from rfl, time]
    refine Result.bind_ok.mpr ⟨[[swapEvent height n]], ?_, rfl⟩
    change List.mapM _ [_] = _
    rw [List.mapM_cons]
    refine Result.bind_ok.mpr ⟨[swapEvent height n], ?_, rfl⟩
    refine Result.bind_ok.mpr ⟨_, rfl, Result.bind_ok.mpr ⟨.swaps, rfl, ?_⟩⟩
    exact Result.bind_ok.mpr ⟨_, executed, rfl⟩
  rw [Tx.events, parsed]
  rfl

theorem parseAmount_text (n : Int) : parseAmount (Numeral.text n) = .ok n := by
  have read := Numeral.integer?_text n
  unfold parseAmount
  split
  · rename_i blank
    rw [blank] at read
    cases read
  · rw [read]

def poisonChunk : Chunk := ⟨[swapTx 199 (Numeral.text (tenTo 320))], 199⟩

theorem poison_events : Tx.parseAll poisonChunk.txs = [swapEvent 199 (tenTo 320)] := by
  have emitted := swapTx_events (parseAmount_text (tenTo 320)) 199
  simp [Tx.parseAll, poisonChunk, emitted]

theorem swap_pairs : Registry.pairs swapSeeded.world.registry = [swapPair] := by decide +kernel

/-- The ordinary swap passes. -/
theorem validated_iff_priced_swap : ∃ write v,
    buildChunk swapConfig swapChain firstChunk 100 swapSeeded.world = (.ok write, v) ∧
      ∃ batches, write.validatedBatches = .ok batches := by
  have events : Tx.parseAll firstChunk.txs = [swapEvent 199 19] := by decide +kernel
  obtain ⟨write, v, built⟩ : ∃ write v,
      buildChunk swapConfig swapChain firstChunk 100 swapSeeded.world = (.ok write, v) :=
    Task.ok_of_isSome (by decide +kernel)
  have yields : (buildChunk swapConfig swapChain firstChunk 100 swapSeeded.world).1.toOption.map
      (·.poolAprs) = some [] := by decide +kernel
  have none : write.poolAprs = [] := by
    rw [built] at yields
    exact Option.some.inj yields
  refine ⟨write, v, built, (validated_iff_priced (by decide) (by decide) built).1.mpr ⟨?_, ?_⟩⟩
  · intro op member
    rw [events, List.mem_singleton] at member
    cases member
    refine Swap.priced_of_lt _ fun pair => ?_
    have few : (19 : Nat) + 1 < Binary64.overflow := by decide +kernel
    unfold Swap.traded
    split
    · exact few
    · exact Nat.lt_trans (by decide) few
  · rw [none]
    simp

/-- The other one does not, and no store takes what is built of it. -/
theorem poison_refused : swapChain.Solvent ∧ poisonChunk.newHeight < twoTo 63 ∧
    (∀ tx ∈ poisonChunk.txs, tx.height < twoTo 63) ∧ ∃ write v,
      buildChunk swapConfig swapChain poisonChunk 100 swapSeeded.world = (.ok write, v) ∧
      (¬ ∃ batches, write.validatedBatches = .ok batches) ∧
      ∀ s : Store, ¬ ∃ s', s.commit write = .ok s' := by
  have reach : poisonChunk.newHeight < twoTo 63 := by decide
  have heights : ∀ tx ∈ poisonChunk.txs, tx.height < twoTo 63 := by
    simp only [poisonChunk, List.mem_singleton, forall_eq]
    exact reach
  obtain ⟨write, v, built⟩ : ∃ write v,
      buildChunk swapConfig swapChain poisonChunk 100 swapSeeded.world = (.ok write, v) := by
    refine Task.ok_of_isSome ?_
    unfold buildChunk
    rw [poison_events]
    decide +kernel
  -- evaluating the write itself would write out the candle; its price is enough
  have overflows : ¬ write.Fits := by
    rw [buildChunk_fits heights reach built, poison_events, swap_pairs]
    rintro ⟨priced, _⟩
    have price := priced _ (List.mem_singleton_self _) swapPair (by decide +kernel)
      (by decide +kernel)
    revert price
    decide +kernel
  refine ⟨swapChain_solvent, reach, heights, write, v, built, ?_, fun s => ?_⟩
  · rwa [ChunkWrite.validatedBatches_fits]
  · rwa [commit_fits]

end Indexer
end PoolIndexer
