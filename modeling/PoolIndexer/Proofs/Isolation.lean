import PoolIndexer.Proofs.Candle.Grouping
import PoolIndexer.Proofs.Division
import PoolIndexer.Proofs.Holdings
import PoolIndexer.Proofs.Indexer.Enriching
import PoolIndexer.Proofs.ReplayedBalances

/-! Pairs do not interfere. What is derived for a pair, its rows of reserves, the holdings and fees
of its changes of liquidity and its candles, is derived of the events at its own address, whatever
stands between them. -/
namespace PoolIndexer

variable {events events' : List Event} {pairs : List Pair} {s : Snapshot} {event : Event}
  {pair : Pair} {address : String}

/-- The swaps at an address are those of the events there. -/
theorem Event.swaps_filter (events : List Event) (address : String) :
    (events.filterMap swap?).filter (·.pairAddress == address) =
      (events.filter (·.touches address)).filterMap swap? := by
  rw [List.filter_filterMap, List.filterMap_filter]
  refine List.filterMap_congr fun event _ => ?_
  cases event with
  | swap op => simp [swap?, touches, poolAddress?, Option.filter]
  | liquidity op | stake op | earn op => simp [swap?]

theorem Event.changes_filter (events : List Event) (address : String) :
    (events.filterMap liquidity?).filter (·.pairAddress == address) =
      (events.filter (·.touches address)).filterMap liquidity? := by
  rw [List.filter_filterMap, List.filterMap_filter]
  refine List.filterMap_congr fun event _ => ?_
  cases event with
  | liquidity op => simp [liquidity?, touches, poolAddress?, Option.filter]
  | swap op | stake op | earn op => simp [liquidity?]

/-! ## Reserves -/

/-- A row never takes the place of one of another pair. -/
theorem putRow_filter {row : PoolAmount} {rows : List PoolAmount} (keyed : row.Keyed)
    (all : ∀ r ∈ rows, r.Keyed) :
    (putRow row rows).filter (·.pairAddress == address) =
      if row.pairAddress = address then putRow row (rows.filter (·.pairAddress == address))
      else rows.filter (·.pairAddress == address) := by
  induction rows with
  | nil => by_cases its : row.pairAddress = address <;> simp [putRow, its]
  | cons head rest ih =>
    obtain ⟨first, others⟩ := List.forall_mem_cons.mp all
    simp only [putRow]
    by_cases same : head.key = row.key
    · -- rows with one key are of one pair, so that the place taken is the pair's own
      have there : head.pairAddress = row.pairAddress := ((first.key_eq_iff keyed).mp same).2
      by_cases its : row.pairAddress = address <;> simp [same, there, its, putRow]
    · rw [if_neg same, List.filter_cons, List.filter_cons, ih others]
      by_cases its : row.pairAddress = address
      · by_cases here : head.pairAddress = address <;> simp [its, here, putRow, same]
      · simp [its]

namespace Replay

/-- Two replays have come to the same for the pair at an address. -/
structure AgreeOn (address : String) (state state' : Replay) : Prop where
  reserves : state.reserves.lookup address = state'.reserves.lookup address
  rows : state.rows.filter (·.pairAddress == address) =
    state'.rows.filter (·.pairAddress == address)
  keyed : ∀ row ∈ state.rows, row.Keyed
  keyed' : ∀ row ∈ state'.rows, row.Keyed

variable {state state' : Replay}

theorem step_keyed (keyed : ∀ row ∈ state.rows, row.Keyed) :
    ∀ row ∈ (step pairs s state event).rows, row.Keyed := by
  rcases step_cases pairs s state event with ⟨same, _⟩ | ⟨pair, _, _, stepped⟩
  · rwa [same]
  · intro row member
    rw [stepped] at member
    rcases mem_of_mem_putRow member with rfl | present
    · rfl
    · exact keyed row present

/-- An event elsewhere changes nothing for the pair. -/
theorem AgreeOn.step_elsewhere (agree : AgreeOn address state state')
    (elsewhere : ¬ event.touches address) : AgreeOn address (step pairs s state event) state' := by
  refine ⟨?_, ?_, step_keyed agree.keyed, agree.keyed'⟩
  · rw [← agree.reserves]
    rcases step_cases pairs s state event with ⟨same, _⟩ | ⟨pair, touched, _, stepped⟩
    · rw [same]
    · have other : address ≠ pair.address := by
        rintro rfl
        exact elsewhere touched
      rw [stepped]
      exact Keyed.lookup_upsert_ne other _ _
  · rw [← agree.rows]
    rcases step_cases pairs s state event with ⟨same, _⟩ | ⟨pair, touched, _, stepped⟩
    · rw [same]
    · have other : ¬ pair.address = address := by
        rintro rfl
        exact elsewhere touched
      rw [stepped, putRow_filter (Reserves.row_keyed _ _ _) agree.keyed]
      exact if_neg other

/-- An event of the pair does the same to both. -/
theorem AgreeOn.step_own (agree : AgreeOn address state state') (own : event.touches address) :
    AgreeOn address (step pairs s state event) (step pairs s state' event) := by
  have touched : event.poolAddress? = some address := by simpa [Event.touches] using own
  refine ⟨?_, ?_, step_keyed agree.keyed, step_keyed agree.keyed'⟩
  · cases known : findByAddress pairs address with
    | none => simpa [step, touched, known] using agree.reserves
    | some pair => simp [step, touched, known, agree.reserves, Keyed.lookup_insert_self]
  · cases known : findByAddress pairs address with
    | none => simpa [step, touched, known] using agree.rows
    | some pair =>
      simp only [step, touched, known, agree.reserves]
      rw [putRow_filter ?_ agree.keyed, putRow_filter ?_ agree.keyed', agree.rows]
      · rfl
      · rfl

/-- A replay comes to the same for a pair as one of the events at its address. -/
theorem AgreeOn.replay (agree : AgreeOn address state state') (events : List Event) :
    AgreeOn address (events.foldl (step pairs s) state)
      ((events.filter (·.touches address)).foldl (step pairs s) state') := by
  induction events generalizing state state' with
  | nil => exact agree
  | cons event rest ih =>
    -- an event of the pair is a step of both replays, any other one of the first alone
    by_cases own : event.touches address
    · rw [List.filter_cons_of_pos own, List.foldl_cons, List.foldl_cons]
      exact ih (agree.step_own own)
    · rw [List.filter_cons_of_neg own, List.foldl_cons]
      exact ih (agree.step_elsewhere own)

end Replay

/-- The rows of reserves of a pair are those of the events at its address. -/
theorem poolHistory_filter (events : List Event) (pairs : List Pair) (s : Snapshot)
    (address : String) :
    (poolHistory events pairs s).filter (·.pairAddress == address) =
      (poolHistory (events.filter (·.touches address)) pairs s).filter
        (·.pairAddress == address) := by
  have none : ∀ row ∈ ({} : Replay).rows, row.Keyed := fun _ absent => nomatch absent
  have start : Replay.AgreeOn address {} {} := ⟨rfl, rfl, none, none⟩
  exact (start.replay events).rows

/-! ## Holdings -/

theorem Snapshot.running_filter (s : Snapshot) (address : String) (ops : List LiquidityChange) :
    s.running address (ops.filter (·.pairAddress == address)) = s.running address ops := by
  unfold running
  rw [List.foldl_filter]
  congr 1
  funext held op
  by_cases its : op.pairAddress = address <;> simp [its]

theorem withHeld_filter {held : List LiquidityChange → LiquidityChange → Holdings}
    (own : ∀ before op, op.pairAddress = address →
      held (before.filter (·.pairAddress == address)) op = held before op)
    (before ops : List LiquidityChange) :
    (withHeld held before ops).filter (·.pairAddress == address) =
      withHeld held (before.filter (·.pairAddress == address))
        (ops.filter (·.pairAddress == address)) := by
  induction ops generalizing before with
  | nil => rfl
  | cons op rest ih =>
    have next := ih (before ++ [op])
    by_cases its : op.pairAddress = address
    · simpa [withHeld, its, own before op its] using next
    · simpa [withHeld, its] using next

/-- What the changes at an address find and leave there is accumulated of them alone. -/
theorem accumulateHoldings_filter (s : Snapshot) (ops : List LiquidityChange) (address : String) :
    (accumulateHoldings s ops).filter (·.pairAddress == address) =
      accumulateHoldings s (ops.filter (·.pairAddress == address)) := by
  rw [accumulateHoldings_eq, accumulateHoldings_eq]
  refine withHeld_filter (fun before op its => ?_) [] ops
  rw [Snapshot.kept, Snapshot.kept, its, Snapshot.running_filter]

/-- The changes at an address are taxed among all others as they are on their own. -/
theorem taxed_filter {params : FeeParams} {book : PriceBook} {ops changes : List LiquidityChange}
    (taxed : ops.mapM (·.taxed params book pairs) = .ok changes) (address : String) :
    (ops.filter (·.pairAddress == address)).mapM (·.taxed params book pairs) =
      .ok (changes.filter (·.pairAddress == address)) := by
  refine Result.mapM_filter (fun {op change} done => ?_) taxed
  obtain ⟨same, -⟩ := op.taxed_records params book pairs done
  rw [same]

/-! ## Candles -/

/-- The candles of a pair are built of the swaps at its address. -/
theorem buildCandles_filter (names : (pairs.map Pair.name).Nodup) (registered : pair ∈ pairs)
    (swaps : List Swap) :
    (buildCandles swaps pairs).filter (·.pair == pair.name) =
      (buildCandles (swaps.filter (·.pairAddress == pair.address)) pairs).filter
        (·.pair == pair.name) := by
  have single : (swapCandles pairs swaps).filter (·.pair == pair.name) =
      (swapCandles pairs (swaps.filter (·.pairAddress == pair.address))).filter
        (·.pair == pair.name) := by
    unfold swapCandles
    rw [List.filter_filterMap, List.filter_filterMap, List.filterMap_filter]
    refine List.filterMap_congr fun op _ => ?_
    by_cases its : op.pairAddress = pair.address
    · simp [its]
    · -- a candle of that name would be one of the pair, and so of a swap at its address
      have none : (op.candle? pairs).filter (·.pair == pair.name) = none := by
        refine Option.filter_eq_none_iff.mpr fun c made named => its ?_
        obtain ⟨other, found, -, same⟩ := Swap.candle?_eq_some.mp made
        have name : other.name = pair.name := by
          rw [← same] at named
          exact beq_iff_eq.mp named
        obtain rfl := (name_eq_iff names registered (List.mem_of_find?_eq_some found)).mp name
        have there : other.address = op.pairAddress := by simpa using List.find?_some found
        exact there.symm
      simp [its, none]
  rw [buildCandles_eq, buildCandles_eq, Candle.addAll_filter, Candle.addAll_filter, single]

/-! ## Two lists of events -/

section

variable (alike : events.filter (·.touches pair.address) = events'.filter (·.touches pair.address))
include alike

theorem poolHistory_isolated (pairs : List Pair) (s : Snapshot) :
    (poolHistory events pairs s).filter (·.pairAddress == pair.address) =
      (poolHistory events' pairs s).filter (·.pairAddress == pair.address) := by
  rw [poolHistory_filter, alike, ← poolHistory_filter]

theorem changes_isolated {params : FeeParams} {book : PriceBook}
    {changes changes' : List LiquidityChange} (s : Snapshot)
    (taxed : (events.filterMap Event.liquidity?).mapM (·.taxed params book pairs) = .ok changes)
    (taxed' : (events'.filterMap Event.liquidity?).mapM (·.taxed params book pairs) =
      .ok changes') :
    (accumulateHoldings s changes).filter (·.pairAddress == pair.address) =
      (accumulateHoldings s changes').filter (·.pairAddress == pair.address) := by
  have own := taxed_filter taxed pair.address
  have own' := taxed_filter taxed' pair.address
  rw [Event.changes_filter, alike] at own
  rw [Event.changes_filter, own] at own'
  rw [accumulateHoldings_filter, accumulateHoldings_filter, Except.ok.inj own']

variable (names : (pairs.map Pair.name).Nodup) (registered : pair ∈ pairs)
include names registered

theorem buildCandles_isolated :
    (buildCandles (events.filterMap Event.swap?) pairs).filter (·.pair == pair.name) =
      (buildCandles (events'.filterMap Event.swap?) pairs).filter (·.pair == pair.name) := by
  rw [buildCandles_filter names registered, Event.swaps_filter, alike, ← Event.swaps_filter,
    ← buildCandles_filter names registered]

/-- Whatever happens elsewhere, at registered addresses or at any others, the same is derived for a
pair of the same events at its address: its rows of reserves, its candles, and the holdings and fees
of its changes of liquidity. Unless the tax rate is negative, there is a fee for every change. -/
theorem pairs_isolated (s : Snapshot) (params : FeeParams) (book : PriceBook) :
    (poolHistory events pairs s).filter (·.pairAddress == pair.address) =
        (poolHistory events' pairs s).filter (·.pairAddress == pair.address) ∧
      (buildCandles (events.filterMap Event.swap?) pairs).filter (·.pair == pair.name) =
        (buildCandles (events'.filterMap Event.swap?) pairs).filter (·.pair == pair.name) ∧
      (∀ changes changes',
        (events.filterMap Event.liquidity?).mapM (·.taxed params book pairs) = .ok changes →
        (events'.filterMap Event.liquidity?).mapM (·.taxed params book pairs) = .ok changes' →
        (accumulateHoldings s changes).filter (·.pairAddress == pair.address) =
          (accumulateHoldings s changes').filter (·.pairAddress == pair.address)) ∧
      (0 ≤ params.taxRate.digits → ∃ changes changes',
        (events.filterMap Event.liquidity?).mapM (·.taxed params book pairs) = .ok changes ∧
        (events'.filterMap Event.liquidity?).mapM (·.taxed params book pairs) = .ok changes') := by
  refine ⟨poolHistory_isolated alike pairs s, buildCandles_isolated alike names registered,
    fun _ _ taxed taxed' => changes_isolated alike s taxed taxed', fun rate => ?_⟩
  have taxed : ∀ ops : List LiquidityChange,
      ∃ changes, ops.mapM (·.taxed params book pairs) = .ok changes :=
    fun ops => Result.mapM_ok.mpr fun op _ => op.taxed_ok rate book pairs
  obtain ⟨changes, done⟩ := taxed (events.filterMap Event.liquidity?)
  obtain ⟨changes', done'⟩ := taxed (events'.filterMap Event.liquidity?)
  exact ⟨changes, changes', done, done'⟩

/-- Chunks that are priced by the same pools and have the same events at a pair's address write the
same of the pair. -/
theorem derive_isolated {config : IndexerConfig} {height height' : Nat} {write write' : ChunkWrite}
    (derived : Indexer.derive config events height pairs s = .ok write)
    (derived' : Indexer.derive config events' height' pairs s = .ok write') :
    write.swaps.filter (·.pairAddress == pair.address) =
        write'.swaps.filter (·.pairAddress == pair.address) ∧
      write.changes.filter (·.pairAddress == pair.address) =
        write'.changes.filter (·.pairAddress == pair.address) ∧
      write.candles.filter (·.pair == pair.name) = write'.candles.filter (·.pair == pair.name) ∧
      write.poolAmounts.filter (·.pairAddress == pair.address) =
        write'.poolAmounts.filter (·.pairAddress == pair.address) := by
  obtain ⟨book, changes, priced, taxed, rfl⟩ := Indexer.derive_cases derived
  obtain ⟨book', changes', priced', taxed', rfl⟩ := Indexer.derive_cases derived'
  obtain rfl : book = book' := Except.ok.inj (priced.symm.trans priced')
  refine ⟨?_, changes_isolated alike s taxed taxed', ?_, poolHistory_isolated alike pairs s⟩
  · have own : ∀ swaps : List Swap,
        (swaps.map (·.valued book)).filter (·.pairAddress == pair.address) =
          (swaps.filter (·.pairAddress == pair.address)).map (·.valued book) :=
      fun swaps => List.filter_map
    dsimp only
    rw [own, own, Event.swaps_filter, alike, ← Event.swaps_filter]
  · dsimp only
    rw [buildCandles_valued, buildCandles_valued]
    exact buildCandles_isolated alike names registered

end

/-! The events of a pair by themselves, and each of them after a swap of a stranger and a withdrawal
from another pair. -/

def besidePair : Pair :=
  { base := .native "atom", quote := .native "orai", address := "q", liquidityToken := "lq" }

def besideEvents : List Event :=
  [.swap { key := "", txHash := "X", height := 101, time := 5, pairAddress := "stray"
           sender := "eve", offerDenom := "usdt", offerAmount := 900, askDenom := "orai"
           returnAmount := 8 },
    .liquidity { key := "", txHash := "Y", height := 101, time := 5, pairAddress := "q"
                 creator := "eve", kind := .withdraw, firstDenom := "orai", firstAmount := 7
                 secondDenom := "atom", secondAmount := 6, share := 5 }]

def crowdedEvents : List Event :=
  (replayedEvents.filter (·.touches replayedPair.address)).flatMap (besideEvents ++ [·])

theorem pairs_isolated_crowded :
    ((poolHistory crowdedEvents [replayedPair, besidePair] replayedSnapshot).filter
        (·.pairAddress == "p")).map (fun row => (row.base, row.quote, row.share)) =
      [(15, 0, 6), (10, 0, 5)] ∧
    ((buildCandles (crowdedEvents.filterMap Event.swap?) [replayedPair, besidePair]).filter
        (·.pair == replayedPair.name)).map (·.volume) = [3] ∧
    ∃ changes changes',
      (replayedEvents.filterMap Event.liquidity?).mapM
        (·.taxed ⟨.zero, 0⟩ ⟨"usdt", "orai", .zero, []⟩ [replayedPair, besidePair]) = .ok changes ∧
      (crowdedEvents.filterMap Event.liquidity?).mapM
        (·.taxed ⟨.zero, 0⟩ ⟨"usdt", "orai", .zero, []⟩ [replayedPair, besidePair]) =
          .ok changes' ∧
      (accumulateHoldings replayedSnapshot changes).filter (·.pairAddress == "p") =
        (accumulateHoldings replayedSnapshot changes').filter (·.pairAddress == "p") := by
  have names : ([replayedPair, besidePair].map Pair.name).Nodup := by decide +kernel
  have alike : replayedEvents.filter (·.touches replayedPair.address) =
      crowdedEvents.filter (·.touches replayedPair.address) := by decide +kernel
  obtain ⟨rows, candles, same, taxes⟩ := pairs_isolated alike names List.mem_cons_self
    replayedSnapshot ⟨.zero, 0⟩ ⟨"usdt", "orai", .zero, []⟩
  obtain ⟨changes, changes', taxed, taxed'⟩ := taxes (by decide)
  refine ⟨?_, ?_, changes, changes', taxed, taxed', same changes changes' taxed taxed'⟩
  · exact (congrArg (List.map _) rows.symm).trans (by decide +kernel)
  · rw [← candles]
    decide +kernel

end PoolIndexer
