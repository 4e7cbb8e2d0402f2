import PoolIndexer.Proofs.CoinList
import PoolIndexer.Proofs.Division
import PoolIndexer.Proofs.Replay
import PoolIndexer.Proofs.Transaction

/-! Reserves that are not negative. A replay keeps them so as long as the swaps offer no negative
amounts, which is the one thing in an event that can make a deposit negative. -/
namespace PoolIndexer

/-! ## Pools -/

/-- No asset of the pool is owed. -/
def Pool.Solvent (pool : Pool) : Prop := ∀ asset ∈ pool.assets, 0 ≤ asset.amount

namespace Pool

variable {pool : Pool}

theorem Solvent.amountOf (solvent : pool.Solvent) (denom : String) : 0 ≤ pool.amountOf denom := by
  unfold Pool.amountOf
  cases found : pool.assets.find? (·.info.denom == denom) with
  | none => simp
  | some asset => simpa using solvent asset (List.mem_of_find?_eq_some found)

theorem Solvent.not_singular (solvent : pool.Solvent) (pair : Pair) : ¬ pool.Singular pair := by
  rintro ⟨lacks, _⟩
  have holds : 0 ≤ (pool.reserves pair).1 := solvent.amountOf pair.base.denom
  rw [lacks] at holds
  exact absurd holds (by decide)

theorem empty_solvent (base quote : AssetInfo) : (empty base quote).Solvent := by
  intro asset member
  simp only [empty, List.mem_cons, List.not_mem_nil, or_false] at member
  rcases member with rfl | rfl
  · exact Int.le_refl 0
  · exact Int.le_refl 0

end Pool

/-! ## Snapshots -/

/-- All pools of the snapshot are solvent. -/
def Snapshot.Solvent (s : Snapshot) : Prop := ∀ entry ∈ s.pools, entry.2.Solvent

namespace Snapshot

variable {s : Snapshot}

theorem Solvent.get? (solvent : s.Solvent) {address : String} {pool : Pool}
    (held : s.get? address = some pool) : pool.Solvent := by
  obtain ⟨before, after, same, _⟩ := List.lookup_eq_some_iff.mp held
  exact solvent (address, pool) (by simp [same])

theorem Solvent.not_blocked (solvent : s.Solvent) (pair : Pair) : ¬ PriceBook.Blocked s pair := by
  rintro ⟨pool, held, singular⟩
  exact (solvent.get? held).not_singular pair singular

theorem Solvent.insert (solvent : s.Solvent) {pool : Pool} (pools : pool.Solvent)
    (address : String) : (s.insert address pool).Solvent :=
  Keyed.forall_upsert solvent pools fun _ _ => pools

theorem ofPools_solvent {pools : List (Pair × Pool)} (each : ∀ entry ∈ pools, entry.2.Solvent)
    (height : Nat) : (ofPools height pools).Solvent := by
  have filled : ∀ {s : Snapshot}, s.Solvent →
      (pools.foldl (fun s entry => s.insert entry.1.address entry.2) s).Solvent := by
    induction pools with
    | nil => exact fun solvent => solvent
    | cons entry rest ih =>
      intro s solvent
      obtain ⟨first, others⟩ := List.forall_mem_cons.mp each
      exact ih others (solvent.insert first entry.1.address)
  exact filled (by simp [Solvent, empty])

theorem ofAnswers_solvent {answers : List (Option Pool)}
    (each : ∀ pool, some pool ∈ answers → pool.Solvent) (pairs : List Pair) (height : Nat) :
    (ofAnswers pairs answers height).Solvent := by
  refine ofPools_solvent (fun entry member => ?_) height
  obtain ⟨⟨pair, i⟩, _, rfl⟩ := List.mem_map.mp member
  dsimp only
  cases answered : answers[i]? with
  | none => exact Pool.empty_solvent _ _
  | some answer =>
    cases answer with
    | none => exact Pool.empty_solvent _ _
    | some pool => exact each pool (List.mem_of_getElem? answered)

end Snapshot

/-! ## Replays -/

/-- What the event brings into a pool is not negative. -/
def Event.Deposits : Event → Prop
  | .swap op => 0 ≤ op.offerAmount
  | .liquidity op => 0 ≤ op.firstAmount ∧ 0 ≤ op.secondAmount
  | .stake _ => True
  | .earn _ => True

/-- Neither reserve is negative. -/
def Reserves.Solvent (r : Reserves) : Prop := 0 ≤ r.base ∧ 0 ≤ r.quote

namespace Reserves

variable {r : Reserves}

theorem ofSnapshot_solvent {s : Snapshot} (solvent : s.Solvent) (pair : Pair) (address : String) :
    (ofSnapshot s pair address).Solvent := by
  unfold ofSnapshot
  cases held : s.get? address with
  | none => exact ⟨Int.le_refl 0, Int.le_refl 0⟩
  | some pool =>
    have pools := solvent.get? held
    exact ⟨pools.amountOf _, pools.amountOf _⟩

theorem Solvent.change (solvent : r.Solvent) {f : Int → Int} (kept : ∀ n, 0 ≤ n → 0 ≤ f n)
    (pair : Pair) (denom : String) : (r.change pair denom f).Solvent := by
  unfold Reserves.change
  split
  · exact ⟨kept _ solvent.1, solvent.2⟩
  · split
    · exact ⟨solvent.1, kept _ solvent.2⟩
    · exact solvent

theorem Solvent.deposit (solvent : r.Solvent) {amount : Int} (nonneg : 0 ≤ amount) (pair : Pair)
    (denom : String) : (r.deposit pair denom amount).Solvent :=
  solvent.change (fun _ held => Int.add_nonneg held nonneg) pair denom

/-- Whatever is taken out, nothing comes to be owed. -/
theorem Solvent.withdraw (solvent : r.Solvent) (pair : Pair) (denom : String) (amount : Int) :
    (r.withdraw pair denom amount).Solvent :=
  solvent.change (fun _ _ => Int.le_max_right _ _) pair denom

theorem Solvent.apply (solvent : r.Solvent) {event : Event} (deposits : event.Deposits)
    (pair : Pair) : (r.apply pair event).Solvent := by
  cases event with
  | swap op => exact (solvent.deposit deposits pair op.offerDenom).withdraw pair _ _
  | liquidity op =>
    simp only [Reserves.apply]
    cases op.kind with
    | provide => exact (solvent.deposit deposits.1 pair _).deposit deposits.2 pair _
    | withdraw => exact (solvent.withdraw pair _ _).withdraw pair _ _
  | stake op => exact solvent
  | earn op => exact solvent

end Reserves

/-- Neither the reserves met nor those of the rows are negative. -/
structure Replay.Solvent (state : Replay) : Prop where
  reserves : ∀ entry ∈ state.reserves, entry.2.Solvent
  rows : ∀ row ∈ state.rows, 0 ≤ row.base ∧ 0 ≤ row.quote

namespace Replay

variable {pairs : List Pair} {s : Snapshot}

theorem Solvent.held {state : Replay} (solvent : state.Solvent) (pools : s.Solvent) (pair : Pair) :
    (state.held s pair).Solvent := by
  unfold Replay.held
  cases met : state.reserves.lookup pair.address with
  | none => exact Reserves.ofSnapshot_solvent pools pair pair.address
  | some reserves =>
    obtain ⟨before, after, same, _⟩ := List.lookup_eq_some_iff.mp met
    exact solvent.reserves (pair.address, reserves) (by simp [same])

theorem step_solvent {state : Replay} (solvent : state.Solvent) (pools : s.Solvent) {event : Event}
    (deposits : event.Deposits) : (step pairs s state event).Solvent := by
  rcases step_cases pairs s state event with ⟨same, _⟩ | ⟨pair, _, _, stepped⟩
  · rwa [same]
  · have after := (solvent.held pools pair).apply deposits pair
    rw [stepped]
    refine ⟨Keyed.forall_upsert solvent.reserves after fun _ _ => after, fun row member => ?_⟩
    rcases mem_of_mem_putRow member with rfl | present
    · exact after
    · exact solvent.rows row present

theorem replay_solvent {events : List Event} {state : Replay} (solvent : state.Solvent)
    (pools : s.Solvent) (deposits : ∀ event ∈ events, event.Deposits) :
    (events.foldl (step pairs s) state).Solvent := by
  induction events generalizing state with
  | nil => exact solvent
  | cons event rest ih =>
    obtain ⟨first, others⟩ := List.forall_mem_cons.mp deposits
    exact ih (step_solvent solvent pools first) others

end Replay

namespace Snapshot

/-- Rows that no negative reserve stands in leave solvent pools solvent. -/
theorem withHistory_solvent {s : Snapshot} (solvent : s.Solvent) (pairs : List Pair)
    {rows : List PoolAmount} (each : ∀ row ∈ rows, 0 ≤ row.base ∧ 0 ≤ row.quote) :
    (s.withHistory pairs rows).Solvent := by
  unfold withHistory
  induction rows generalizing s with
  | nil => exact solvent
  | cons row rest ih =>
    obtain ⟨first, others⟩ := List.forall_mem_cons.mp each
    refine ih ?_ others
    cases known : findByAddress pairs row.pairAddress with
    | none => simpa only [known] using solvent
    | some pair =>
      simp only [known]
      have pool : (row.toPool pair).Solvent := by
        simpa [Pool.Solvent, PoolAmount.toPool] using first
      exact solvent.insert pool row.pairAddress

/-- The pools that a chunk's events leave are solvent where those before it are. -/
theorem replayed_solvent {s : Snapshot} (solvent : s.Solvent) (pairs : List Pair)
    {events : List Event} (deposits : ∀ event ∈ events, event.Deposits) :
    (s.withHistory pairs (poolHistory events pairs s)).Solvent := by
  have none : Replay.Solvent {} := ⟨by simp, by simp⟩
  exact withHistory_solvent solvent pairs (Replay.replay_solvent none solvent deposits).rows

end Snapshot

/-! ## Amounts as they are read -/

theorem LiquidityChange.ReadFrom.deposits {ctx : TxContext} {kind : LiquidityKind} {e : Execution}
    {op : LiquidityChange} (read : op.ReadFrom ctx kind e) : (Event.liquidity op).Deposits := by
  obtain ⟨text, -, parsed⟩ := read.assets
  have each := fun coin member => (parseCoinList_printable parsed coin member).nonneg
  exact ⟨each _ List.mem_cons_self, each _ (List.mem_cons_of_mem _ List.mem_cons_self)⟩

theorem Harvest.Reads.deposits {ctx : TxContext} {e : Execution} {harvest : Harvest}
    {events : List Event} {op : LiquidityChange} (reads : harvest.Reads ctx e events)
    (among : Event.liquidity op ∈ events) : (Event.liquidity op).Deposits := by
  cases harvest with
  | provides | withdrawals =>
    obtain ⟨own, read, rfl⟩ := reads
    rw [List.mem_singleton.mp among]
    exact read.deposits
  | swaps | bonds =>
    obtain ⟨_, -, rfl⟩ := reads
    cases List.mem_singleton.mp among
  | rewards =>
    obtain ⟨ops, -, rfl⟩ := reads
    obtain ⟨_, -, same⟩ := List.mem_map.mp among
    cases same
  | nothing => cases reads

/-- Only a swap can bring a negative amount. -/
theorem Tx.events_deposit {tx : Tx} {event : Event} (member : event ∈ tx.events)
    (offers : ∀ op, event = .swap op → 0 ≤ op.offerAmount) : event.Deposits := by
  obtain ⟨ctx, _, _, harvest, e, events, harvested, among⟩ := Tx.events_origin member
  cases event with
  | swap op => exact offers op rfl
  | liquidity op => exact (Harvest.reads_of_mem harvested among).2.deposits among
  | stake op => trivial
  | earn op => trivial

end PoolIndexer
