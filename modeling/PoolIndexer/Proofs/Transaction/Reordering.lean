import PoolIndexer.Proofs.Delivery
import PoolIndexer.Proofs.Sorting
import PoolIndexer.Proofs.Transaction

/-! Chunks of transactions that are cut, reordered or mixed with others. The events of a chunk
depend on the transactions of each height in their order, and on nothing else; a transaction that
failed, or one with a message that cannot be read, might as well not be there. -/
namespace PoolIndexer

/-! ## Whether something can be read

What is read depends on the context it is read in, but not whether it can be read. -/

theorem Harvest.isOk_events (ctx ctx' : TxContext) (e : Execution) (harvest : Harvest) :
    (harvest.events ctx e).isOk = (harvest.events ctx' e).isOk := by
  rw [Bool.eq_iff_iff, Result.isOk_iff, Result.isOk_iff]
  by_cases counted : harvest.counts e
  · rw [exists_events counted, exists_events counted]
  · rw [events_of_not_counts counted, events_of_not_counts counted]

theorem TxMessage.isOk_parse (ctx ctx' : TxContext) (m : TxMessage) :
    (m.parse ctx).isOk = (m.parse ctx').isOk := by
  unfold parse
  apply Result.isOk_bind_congr; intro message
  apply Result.isOk_bind_congr; intro harvest
  have alike : (fun e => (harvest.events ctx e).isOk) = fun e => (harvest.events ctx' e).isOk :=
    funext fun e => harvest.isOk_events ctx ctx' e
  simp [alike]

/-- The message executes a contract and cannot be read. Messages of other types are never looked
at. -/
def TxMessage.Malformed (m : TxMessage) : Prop :=
  m.typeUrl = executeTypeUrl ∧ ∃ ctx, (m.parse ctx).isOk = false

namespace Tx

/-- The transaction failed, or one of its messages cannot be read. -/
def Dropped (tx : Tx) : Prop := tx.code ≠ 0 ∨ ∃ m ∈ tx.messages, m.Malformed

theorem isOk_parse_of_malformed {tx : Tx} {m : TxMessage} (member : m ∈ tx.messages)
    (malformed : m.Malformed) : tx.parse.isOk = false := by
  obtain ⟨executes, ctx, unreadable⟩ := malformed
  unfold parse
  cases Timestamp.parse? tx.timestamp with
  | none => rfl
  | some time =>
    have here := (m.isOk_parse ⟨tx.hash, tx.height, time, m.sender⟩ ctx).trans unreadable
    have among : m ∈ tx.messages.filter (·.typeUrl == executeTypeUrl) := by
      simp [member, executes]
    simp only [bind_pure_comp, Result.isOk_map, Result.isOk_mapM, List.all_eq_false]
    exact ⟨m, among, by simp [here]⟩

theorem events_of_dropped {tx : Tx} (dropped : tx.Dropped) : tx.events = [] := by
  unfold events
  rcases dropped with failed | ⟨m, member, malformed⟩
  · simp [failed]
  · have unread := isOk_parse_of_malformed member malformed
    cases parsed : tx.parse with
    | ok events => simp [parsed, Except.isOk, Except.toBool] at unread
    | error e => simp

/-! ## The events of one height -/

theorem filter_events (tx : Tx) (height : Nat) :
    tx.events.filter (·.height == height) = if tx.height = height then tx.events else [] := by
  split
  · rename_i same
    rw [List.filter_eq_self]
    intro event member
    simp [(events_at member).1, same]
  · rename_i other
    rw [List.filter_eq_nil_iff]
    intro event member
    simp [(events_at member).1, other]

theorem filter_flatMap_events (txs : List Tx) (height : Nat) :
    (txs.flatMap events).filter (·.height == height) =
      (txs.filter (·.height == height)).flatMap events := by
  induction txs with
  | nil => rfl
  | cons tx rest ih =>
    rw [List.flatMap_cons, List.filter_append, filter_events, ih]
    by_cases same : tx.height = height <;> simp [same]

/-- Sorting by height leaves the events of one height in the order of their transactions. -/
theorem filter_parseAll (txs : List Tx) (height : Nat) :
    (parseAll txs).filter (·.height == height) =
      (txs.filter (·.height == height)).flatMap events := by
  rw [← filter_flatMap_events]
  apply Sorting.filter_mergeSort
  · intro a b c
    simp only [decide_eq_true_eq]
    omega
  · intro a b
    simp only [Bool.or_eq_true, decide_eq_true_eq]
    omega
  · apply List.pairwise_of_forall_mem_list
    intro a among b among'
    simp only [List.mem_filter, beq_iff_eq] at among among'
    simp [among.2, among'.2]

/-! ## Chunks -/

/-- The same transactions, those of each height in the same order. -/
def Reordered (xs ys : List Tx) : Prop :=
  ∀ height, xs.filter (·.height == height) = ys.filter (·.height == height)

theorem parseAll_reordered {xs ys : List Tx} (reordered : Reordered xs ys) :
    parseAll xs = parseAll ys := by
  apply Sorting.eq_of_filters (parseAll_ascends xs) (parseAll_ascends ys)
  intro height
  rw [filter_parseAll, filter_parseAll, reordered height]

theorem parseAll_append {xs ys : List Tx} (below : ∀ x ∈ xs, ∀ y ∈ ys, x.height ≤ y.height) :
    parseAll (xs ++ ys) = parseAll xs ++ parseAll ys := by
  have ascends : (parseAll xs ++ parseAll ys).Pairwise fun a b => a.height ≤ b.height := by
    refine List.pairwise_append.mpr ⟨parseAll_ascends xs, parseAll_ascends ys, ?_⟩
    intro a first b second
    obtain ⟨x, among, from'⟩ := mem_parseAll.mp first
    obtain ⟨y, among', from''⟩ := mem_parseAll.mp second
    rw [(events_at from').1, (events_at from'').1]
    exact below x among y among'
  apply Sorting.eq_of_filters (parseAll_ascends _) ascends
  intro height
  simp only [List.filter_append, filter_parseAll, List.flatMap_append]

theorem parseAll_dropped {xs ys : List Tx} {tx : Tx} (dropped : tx.Dropped) :
    parseAll (xs ++ tx :: ys) = parseAll (xs ++ ys) := by
  unfold parseAll
  simp only [List.flatMap_append, List.flatMap_cons, events_of_dropped dropped, List.nil_append]

/-- A chunk may be cut where the heights allow it, its transactions may change places with those of
other heights, and transactions that failed or cannot be read may stand anywhere. -/
theorem parseAll_composes :
    (∀ xs ys : List Tx, (∀ x ∈ xs, ∀ y ∈ ys, x.height ≤ y.height) →
      parseAll (xs ++ ys) = parseAll xs ++ parseAll ys) ∧
    (∀ xs ys : List Tx, Reordered xs ys → parseAll xs = parseAll ys) ∧
    ∀ (xs ys : List Tx) (tx : Tx), tx.Dropped →
      parseAll (xs ++ tx :: ys) = parseAll (xs ++ ys) :=
  ⟨fun _ _ => parseAll_append, fun _ _ => parseAll_reordered, fun _ _ _ => parseAll_dropped⟩

/-! Two stakes at different heights, and a third transaction whose first message is a stake too
while its second one has no number for an amount. -/

def earlyStake : Tx := Delivery.stakeTx

def lateStake : Tx := { Delivery.stakeTx with hash := "B", height := 160 }

def garbledMessage : TxMessage where
  typeUrl := executeTypeUrl
  sender := "bob"
  body := .obj [("bond", .obj [])]
  events := [⟨"wasm", [⟨contractKey, "staking"⟩, ⟨"action", "bond"⟩, ⟨"staker_addr", "bob"⟩,
    ⟨"asset_info", "lp"⟩, ⟨"amount", "12abc"⟩]⟩]

def garbledStake : Tx :=
  { Delivery.stakeTx with hash := "C", messages := Delivery.stakeTx.messages ++ [garbledMessage] }

theorem parseAll_composes_stakes :
    parseAll ([earlyStake] ++ [lateStake]) = parseAll [earlyStake] ++ parseAll [lateStake] ∧
    parseAll [lateStake, earlyStake] = parseAll [earlyStake, lateStake] ∧
    garbledStake.Dropped ∧
    parseAll ([earlyStake] ++ garbledStake :: [lateStake]) = parseAll [earlyStake, lateStake] ∧
    (parseAll [earlyStake, lateStake]).map (·.height) = [150, 160] := by
  obtain ⟨cut, reorder, drop⟩ := parseAll_composes
  have apart := cut [earlyStake] [lateStake] (by simp [earlyStake, lateStake, Delivery.stakeTx])
  have swapped : Reordered [lateStake, earlyStake] [earlyStake, lateStake] := by
    intro height
    by_cases early : earlyStake.height = height
    · have late : lateStake.height ≠ height := by
        rw [← early]
        decide
      simp [early, late]
    · simp [List.filter_cons, early]
  have garbled : garbledStake.Dropped :=
    .inr ⟨garbledMessage, by simp [garbledStake], rfl, ⟨"", 0, 0, ""⟩, by decide +kernel⟩
  refine ⟨apart, reorder _ _ swapped, garbled, drop _ _ _ garbled, ?_⟩
  change (parseAll ([earlyStake] ++ [lateStake])).map (·.height) = [150, 160]
  rw [apart]
  decide +kernel

end Tx
end PoolIndexer
