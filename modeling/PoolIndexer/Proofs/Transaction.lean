import PoolIndexer.Proofs.Transaction.Reading

/-! Where the events of a chunk come from. Each has the height and the time of its transaction, and
they come in the order of heights. -/
namespace PoolIndexer

/-- The event happened at a height and a time. -/
def Event.At (height : Nat) (time : Int) (event : Event) : Prop :=
  event.height = height ∧ event.time = time

/-- The events of an execution have the height and the time that it is read at. -/
theorem Harvest.events_at (ctx : TxContext) (e : Execution) (harvest : Harvest) :
    Result.Yields (∀ event ∈ ·, event.At ctx.height ctx.time) (harvest.events ctx e) := by
  intro events done event member
  obtain ⟨-, reads⟩ := reads_of_mem done member
  cases harvest with
  | swaps | provides | withdrawals | bonds =>
    obtain ⟨op, read, rfl⟩ := reads
    rw [List.mem_singleton.mp member, read.made]
    exact ⟨rfl, rfl⟩
  | rewards =>
    obtain ⟨_, ⟨_, _, coins, -, -, -, rfl⟩, rfl⟩ := reads
    obtain ⟨op, among, rfl⟩ := List.mem_map.mp member
    obtain ⟨coin, -, rfl⟩ := List.mem_map.mp among
    exact ⟨rfl, rfl⟩
  | nothing => cases reads

/-- Every event of a message is one of an execution. -/
theorem TxMessage.parse_origin (ctx : TxContext) (m : TxMessage) :
    Result.Yields (∀ event ∈ ·, ∃ (harvest : Harvest) (e : Execution) (events : List Event),
      harvest.events ctx e = .ok events ∧ event ∈ events) (m.parse ctx) :=
  Result.yields_bind fun _ => Result.yields_bind fun harvest =>
    Result.Yields.flatten (fun e events harvested _ member =>
      ⟨harvest, e, events, harvested, member⟩) _

namespace Tx

theorem parse_origin (tx : Tx) :
    Result.Yields (∀ event ∈ ·, ∃ ctx : TxContext, ctx.height = tx.height ∧
      Timestamp.parse? tx.timestamp = some ctx.time ∧
      ∃ (harvest : Harvest) (e : Execution) (events : List Event),
        harvest.events ctx e = .ok events ∧ event ∈ events) tx.parse := by
  unfold parse
  cases read : Timestamp.parse? tx.timestamp with
  | none => exact Result.yields_error _
  | some time =>
    refine Result.Yields.flatten (fun m => ?_) _
    intro events parsed event member
    exact ⟨_, rfl, rfl, TxMessage.parse_origin _ m parsed event member⟩

/-- Every event of a transaction is one of an execution, in a context with the height of the
transaction and the time that its timestamp is read as. -/
theorem events_origin {tx : Tx} {event : Event} (member : event ∈ tx.events) :
    ∃ ctx : TxContext, ctx.height = tx.height ∧ Timestamp.parse? tx.timestamp = some ctx.time ∧
      ∃ (harvest : Harvest) (e : Execution) (events : List Event),
        harvest.events ctx e = .ok events ∧ event ∈ events := by
  unfold events at member
  split at member
  · split at member
    · rename_i events parsed
      exact parse_origin tx parsed event member
    · cases member
  · cases member

/-- An event of a transaction has its height, and the time that its timestamp is read as. -/
theorem events_at {tx : Tx} {event : Event} (member : event ∈ tx.events) :
    event.height = tx.height ∧ Timestamp.parse? tx.timestamp = some event.time := by
  obtain ⟨ctx, height, read, harvest, e, events, harvested, among⟩ := events_origin member
  obtain ⟨its, same⟩ := harvest.events_at ctx e harvested event among
  exact ⟨its.trans height, by rw [read, same]⟩

theorem mem_parseAll {txs : List Tx} {event : Event} :
    event ∈ parseAll txs ↔ ∃ tx ∈ txs, event ∈ tx.events := by
  rw [parseAll, List.mem_mergeSort, List.mem_flatMap]

theorem parseAll_ascends (txs : List Tx) :
    (parseAll txs).Pairwise fun a b => a.height ≤ b.height := by
  have sorted : (parseAll txs).Pairwise fun a b => decide (a.height ≤ b.height) := by
    apply List.pairwise_mergeSort
    · intro a b c first second
      simp only [decide_eq_true_eq] at first second ⊢
      omega
    · intro a b
      simp only [Bool.or_eq_true, decide_eq_true_eq]
      omega
  exact sorted.imp of_decide_eq_true

/-- The events of one transaction are in order as they are. -/
theorem parseAll_singleton (tx : Tx) : parseAll [tx] = tx.events := by
  have level : tx.events.Pairwise fun a b => decide (a.height ≤ b.height) :=
    List.pairwise_of_forall_mem_list fun a first b second => by
      simp [(events_at first).1, (events_at second).1]
  rw [parseAll, List.flatMap_singleton, List.mergeSort_of_pairwise level]

end Tx
end PoolIndexer
