import PoolIndexer.Proofs.LatestReserves
import PoolIndexer.Proofs.Result.Lists

/-! The rows of a chunk and the events that they record. Every event becomes one row of its kind,
in the order of events, whether or not its contract is registered, and the row is the event but for
the values, the holdings and the fees that are filled in. -/
namespace PoolIndexer

/-! ## Rows and events -/

@[simp]
theorem Event.swap?_eq_some {event : Event} {op : Swap} :
    event.swap? = some op ↔ event = .swap op := by
  cases event <;> simp [Event.swap?]

@[simp]
theorem Event.liquidity?_eq_some {event : Event} {op : LiquidityChange} :
    event.liquidity? = some op ↔ event = .liquidity op := by
  cases event <;> simp [Event.liquidity?]

@[simp]
theorem Event.stake?_eq_some {event : Event} {op : Stake} :
    event.stake? = some op ↔ event = .stake op := by
  cases event <;> simp [Event.stake?]

@[simp]
theorem Event.earn?_eq_some {event : Event} {op : Earning} :
    event.earn? = some op ↔ event = .earn op := by
  cases event <;> simp [Event.earn?]

/-- The row is the swap, with values. -/
def Swap.Records (row op : Swap) : Prop :=
  row = { op with volumeUsdt := row.volumeUsdt, commissionUsdt := row.commissionUsdt }

/-- The row is the change, with holdings, and with a fee if it is a withdrawal. -/
def LiquidityChange.Records (row op : LiquidityChange) : Prop :=
  row = { op with firstHeld := row.firstHeld, secondHeld := row.secondHeld, fee := row.fee } ∧
    (op.kind = .provide → row.fee = op.fee)

/-- The row is the stake, with a value. -/
def Stake.Records (row op : Stake) : Prop := row = { op with valueUsdt := row.valueUsdt }

/-- The row is the earning, with a value. -/
def Earning.Records (row op : Earning) : Prop := row = { op with valueUsdt := row.valueUsdt }

theorem Swap.valued_records (book : PriceBook) (op : Swap) : (op.valued book).Records op := rfl

theorem Stake.valued_records (book : PriceBook) (pairs : List Pair) (pools : Snapshot)
    (op : Stake) : (op.valued book pairs pools).Records op := rfl

theorem Earning.valued_records (book : PriceBook) (op : Earning) :
    (op.valued book).Records op := rfl

theorem LiquidityChange.taxed_records (params : FeeParams) (book : PriceBook) (pairs : List Pair)
    (op : LiquidityChange) : Result.Yields (·.Records op) (op.taxed params book pairs) := by
  unfold taxed
  split
  · exact Result.yields_ok ⟨rfl, fun _ => rfl⟩
  · rename_i withdrawn
    have taxable : ∀ fee, LiquidityChange.Records { op with fee } op := by
      refine fun fee => ⟨rfl, fun provided => ?_⟩
      rw [withdrawn] at provided
      cases provided
    split
    · exact Result.yields_bind fun fee => Result.yields_ok (taxable fee)
    · exact Result.yields_ok (taxable 0)

theorem LiquidityChange.Records.held {row op : LiquidityChange} (records : row.Records op)
    (held : Holdings) :
    LiquidityChange.Records { row with firstHeld := held.1, secondHeld := held.2 } op := by
  obtain ⟨same, provided⟩ := records
  refine ⟨?_, provided⟩
  rw [same]

/-- Holdings are given to each change where it stands. -/
theorem accumulateHoldings_records {s : Snapshot} {changes ops : List LiquidityChange}
    (records : List.Forall₂ LiquidityChange.Records changes ops) :
    List.Forall₂ LiquidityChange.Records (accumulateHoldings s changes) ops := by
  have running : ∀ held,
      List.Forall₂ LiquidityChange.Records (accumulateHoldings.go s held changes) ops := by
    induction records with
    | nil => exact fun _ => .nil
    | cons first _ ih => exact fun _ => .cons (first.held _) (ih _)
  exact running []

/-- Every event is of one kind. -/
theorem Event.kinds_length (events : List Event) :
    (events.filterMap swap?).length + (events.filterMap liquidity?).length +
      (events.filterMap stake?).length + (events.filterMap earn?).length = events.length := by
  induction events with
  | nil => rfl
  | cons event rest ih =>
    cases event with
    | swap op | liquidity op | stake op | earn op =>
      simp only [List.filterMap_cons, swap?, liquidity?, stake?, earn?, List.length_cons]
      omega

/-! ## What is built of a chunk -/

/-- The swaps, changes, stakes and earnings of a write record those of a list of events, each in
the order of the events, and there are no others. -/
structure ChunkWrite.Records (write : ChunkWrite) (events : List Event) : Prop where
  swaps : List.Forall₂ Swap.Records write.swaps (events.filterMap Event.swap?)
  changes : List.Forall₂ LiquidityChange.Records write.changes (events.filterMap Event.liquidity?)
  stakes : List.Forall₂ Stake.Records write.stakes (events.filterMap Event.stake?)
  earnings : List.Forall₂ Earning.Records write.earnings (events.filterMap Event.earn?)

theorem ChunkWrite.Records.length {write : ChunkWrite} {events : List Event}
    (records : write.Records events) :
    write.swaps.length + write.changes.length + write.stakes.length + write.earnings.length =
      events.length := by
  rw [records.swaps.length_eq, records.changes.length_eq, records.stakes.length_eq,
    records.earnings.length_eq, Event.kinds_length]

theorem forall_of_forall₂ {α β : Type} {R : α → β → Prop} {P : α → Prop} {Q : β → Prop}
    (each : ∀ a b, R a b → Q b → P a) {l : List α} {l' : List β} (paired : List.Forall₂ R l l')
    (holds : ∀ b ∈ l', Q b) : ∀ a ∈ l, P a := by
  induction paired with
  | nil => exact fun _ absent => nomatch absent
  | cons first _ ih =>
    obtain ⟨here, others⟩ := List.forall_mem_cons.mp holds
    exact List.forall_mem_cons.mpr ⟨each _ _ first here, ih others⟩

/-- What holds of the height and the time of every event holds of those of every row. -/
theorem ChunkWrite.Records.dated {write : ChunkWrite} {events : List Event} {P : Nat → Int → Prop}
    (records : write.Records events) (dated : ∀ event ∈ events, P event.height event.time) :
    (∀ op ∈ write.swaps, P op.height op.time) ∧ (∀ op ∈ write.changes, P op.height op.time) ∧
      (∀ op ∈ write.stakes, P op.height op.time) ∧
      ∀ op ∈ write.earnings, P op.height op.time := by
  refine ⟨?_, ?_, ?_, ?_⟩
  · refine forall_of_forall₂ (fun row op same holds => ?_) records.swaps
      fun op member => dated (.swap op) (by simpa using member)
    rw [Swap.Records] at same
    rw [same]
    exact holds
  · refine forall_of_forall₂ (fun row op same holds => ?_) records.changes
      fun op member => dated (.liquidity op) (by simpa using member)
    rw [same.1]
    exact holds
  · refine forall_of_forall₂ (fun row op same holds => ?_) records.stakes
      fun op member => dated (.stake op) (by simpa using member)
    rw [Stake.Records] at same
    rw [same]
    exact holds
  · refine forall_of_forall₂ (fun row op same holds => ?_) records.earnings
      fun op member => dated (.earn op) (by simpa using member)
    rw [Earning.Records] at same
    rw [same]
    exact holds

namespace Indexer

variable {σ : Type} {config : IndexerConfig} {chain : Chain} {chunk : Chunk} {checkpoint : Nat}
  {w v : World σ} {write : ChunkWrite}

theorem derive_records {events : List Event} {newHeight : Nat} {pairs : List Pair}
    {pools : Snapshot} (derived : derive config events newHeight pairs pools = .ok write) :
    write.Records events := by
  obtain ⟨book, changes, _, taxed, rfl⟩ := derive_cases derived
  have records : List.Forall₂ LiquidityChange.Records changes
      (events.filterMap Event.liquidity?) := by
    refine ((Result.mapM_iff.mp taxed).imp fun op change done => ?_).flip
    exact op.taxed_records _ _ _ done
  refine ⟨?_, accumulateHoldings_records records, ?_, ?_⟩
  · exact List.forall₂_map_left_iff.mpr (List.forall₂_same.mpr fun op _ => op.valued_records book)
  · exact List.forall₂_map_left_iff.mpr
      (List.forall₂_same.mpr fun op _ => op.valued_records book pairs pools)
  · exact List.forall₂_map_left_iff.mpr (List.forall₂_same.mpr fun op _ => op.valued_records book)

/-- Of every event of a chunk one row is built, and of nothing else. -/
theorem built_records
    (built : buildChunk config chain chunk checkpoint w = (.ok write, v)) :
    write.Records (Tx.parseAll chunk.txs) ∧
      write.swaps.length + write.changes.length + write.stakes.length + write.earnings.length =
        (Tx.parseAll chunk.txs).length := by
  have records : write.Records (Tx.parseAll chunk.txs) := by
    rcases buildChunk_ok built with ⟨empty, rfl⟩ | ⟨_, _, derived, _, derives, _, rfl⟩
    · rw [empty]
      exact ⟨.nil, .nil, .nil, .nil⟩
    · obtain ⟨swaps, changes, stakes, earnings⟩ := derive_records derives
      exact ⟨swaps, changes, stakes, earnings⟩
  exact ⟨records, records.length⟩

/-! A transaction with events of every kind, some of contracts that are not registered. -/

open LatestReserves

def mixedExecution (contract : String) (attributes : List Attribute) : TxEvent :=
  ⟨"wasm", ⟨contractKey, contract⟩ :: attributes⟩

def mixedSwap (contract : String) : TxEvent := mixedExecution contract
  [⟨"action", "swap"⟩, ⟨"offer_asset", hubDenom⟩, ⟨"ask_asset", usdtContract⟩,
    ⟨"offer_amount", "10"⟩, ⟨"return_amount", "19"⟩]

def mixedTx : Tx :=
  { swapTx 199 "19" with messages := [
      { typeUrl := executeTypeUrl
        body := .obj [("bond", .obj [])]
        events := [mixedExecution "staking" [⟨"action", "bond"⟩, ⟨"staker_addr", "alice"⟩,
          ⟨"asset_info", "stray lp"⟩, ⟨"amount", "5"⟩]] },
      { typeUrl := executeTypeUrl
        body := .obj [("execute_swap_operations", .obj [("operations", .arr [])])]
        events := [mixedSwap "stray", mixedSwap swapPair.address] },
      { typeUrl := executeTypeUrl
        body := .obj [("withdraw", .obj [])]
        events := [mixedExecution "staking" [⟨"action", "withdraw_reward"⟩,
          ⟨"staker_addr", "alice"⟩, ⟨"staking_token", "lp"⟩, ⟨"reward_amount", "3orai,4usdt"⟩]] },
      { typeUrl := executeTypeUrl
        body := .obj [("provide_liquidity", .obj [("assets", .arr [])])]
        events := [mixedExecution "stray" [⟨"action", "provide_liquidity"⟩, ⟨"assets", "1a, 2b"⟩,
          ⟨"share", "1"⟩]] }] }

def mixedChunk : Chunk := ⟨[mixedTx], 199⟩

theorem built_records_mixed : ∃ write v,
    buildChunk swapConfig swapChain mixedChunk 100 swapSeeded.world = (.ok write, v) ∧
      write.Records mixedTx.events ∧
      write.swaps.map (·.pairAddress) = ["stray", swapPair.address] ∧
      (write.changes.length, write.stakes.length, write.earnings.length) = (1, 1, 2) := by
  have swaps : (buildChunk swapConfig swapChain mixedChunk 100 swapSeeded.world).1.toOption.map
      (·.swaps.map (·.pairAddress)) = some ["stray", swapPair.address] := by
    unfold buildChunk
    rw [mixedChunk, Tx.parseAll_singleton]
    decide +kernel
  obtain ⟨write, v, built⟩ : ∃ write v,
      buildChunk swapConfig swapChain mixedChunk 100 swapSeeded.world = (.ok write, v) :=
    Task.ok_of_isSome (Option.isSome_map.symm.trans (congrArg Option.isSome swaps))
  obtain ⟨records, _⟩ := built_records built
  rw [mixedChunk, Tx.parseAll_singleton] at records
  rw [built] at swaps
  refine ⟨write, v, built, records, Option.some.inj swaps, ?_⟩
  rw [records.changes.length_eq, records.stakes.length_eq, records.earnings.length_eq]
  decide +kernel

end Indexer
end PoolIndexer
