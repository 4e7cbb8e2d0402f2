import Mathlib.Tactic.SplitIfs
import PoolIndexer.Proofs.ChunkWrite
import PoolIndexer.Proofs.Reserves

/-! What a store holds after any history of calls. Every call that succeeds brings its height and
its rows, and the store holds what has come by the rule of each table. A call that fails might as
well not have been made. -/
namespace PoolIndexer

/-! ## The checkpoint -/

/-- A checkpoint raised to a height. -/
def raised (stored : Option Nat) (height : Nat) : Option Nat :=
  some (max (stored.getD 0) height)

theorem foldl_raised_some (heights : List Nat) (c : Nat) :
    heights.foldl raised (some c) = some (heights.foldl max c) := by
  induction heights generalizing c with
  | nil => rfl
  | cons height rest ih => exact ih (max c height)

theorem foldl_raised (heights : List Nat) : heights.foldl raised none = heights.max? := by
  cases heights with
  | nil => rfl
  | cons height rest =>
    have first : raised none height = some height := by simp [raised]
    rw [List.foldl_cons, first, foldl_raised_some, List.max?_cons']

theorem Store.raiseCheckpoint_eq (s : Store) (height : Nat) :
    s.raiseCheckpoint height = { s with checkpoint := raised s.checkpoint height } := by
  obtain ⟨_ | c⟩ := s
  · simp [raiseCheckpoint, raised]
  · by_cases below : c < height
    · simp [raiseCheckpoint, raised, below]
      omega
    · simp [raiseCheckpoint, raised, below]
      omega

/-! ## Calls and what they bring -/

/-- A call that writes to a store. -/
inductive Call
  | seedCheckpoint (height : Nat)
  | insert (table : Table) (rows : List Json)
  | commit (write : ChunkWrite)

/-- Heights, and rows of every table. -/
structure Arrivals where
  heights : List Nat := []
  pairs : List PairRow := []
  swaps : List Swap := []
  changes : List LiquidityChange := []
  candles : List Candle := []
  stakes : List Stake := []
  earnings : List Earning := []
  poolAmounts : List PoolAmount := []
  poolAprs : List PoolApr := []

/-- The records that rows are, if their table is that of records of this kind. -/
def Record.inTable {α : Type} [Record α] (table : Table) (rows : List Json) : List α :=
  if table.name = (Record.table α).name then (rows.mapM Record.ofJson?).getD [] else []

/-- What a call brings if it succeeds. -/
def Call.arrivals : Call → Arrivals
  | .seedCheckpoint height => { heights := [height] }
  | .insert table rows => {
      pairs := Record.inTable table rows
      swaps := Record.inTable table rows
      changes := Record.inTable table rows
      candles := Record.inTable table rows
      stakes := Record.inTable table rows
      earnings := Record.inTable table rows
      poolAmounts := Record.inTable table rows
      poolAprs := Record.inTable table rows }
  | .commit w => {
      heights := [w.newHeight]
      swaps := w.swaps
      changes := w.changes
      candles := w.candles
      stakes := w.stakes
      earnings := w.earnings
      poolAmounts := w.poolAmounts
      poolAprs := w.poolAprs }

/-- What calls bring, one after the other. -/
def Arrivals.ofCalls (calls : List Call) : Arrivals where
  heights := calls.flatMap (·.arrivals.heights)
  pairs := calls.flatMap (·.arrivals.pairs)
  swaps := calls.flatMap (·.arrivals.swaps)
  changes := calls.flatMap (·.arrivals.changes)
  candles := calls.flatMap (·.arrivals.candles)
  stakes := calls.flatMap (·.arrivals.stakes)
  earnings := calls.flatMap (·.arrivals.earnings)
  poolAmounts := calls.flatMap (·.arrivals.poolAmounts)
  poolAprs := calls.flatMap (·.arrivals.poolAprs)

/-- A store that takes what arrives. -/
def Store.receive (s : Store) (a : Arrivals) : Store where
  checkpoint := a.heights.foldl raised s.checkpoint
  pairs := a.pairs.foldl (putLast PairRow.address) s.pairs
  swaps := s.swaps ++ a.swaps
  changes := s.changes ++ a.changes
  candles := s.candles ++ a.candles
  stakes := s.stakes ++ a.stakes
  earnings := s.earnings ++ a.earnings
  keyedAmounts := a.poolAmounts.foldl KeyedRows.upsert s.keyedAmounts
  keyedAprs := a.poolAprs.foldl KeyedRows.upsert s.keyedAprs

theorem Store.receive_ofCalls_append (s : Store) (calls : List Call) (c : Call) :
    s.receive (.ofCalls (calls ++ [c])) = (s.receive (.ofCalls calls)).receive c.arrivals := by
  simp [receive, Arrivals.ofCalls, List.flatMap_append, List.foldl_append]

/-! ## Making calls -/

/-- An action whose result does not matter. -/
def Action.void {σ α : Type} (action : Action σ α) : Action σ Unit := fun s =>
  ((action s).1.map fun _ => (), (action s).2)

def Call.action : Call → Action Store Unit
  | .seedCheckpoint height => (Store.backend.seedCheckpoint height).void
  | .insert table rows => (Store.backend.insert table rows).void
  | .commit w => Store.backend.commit w

namespace Action

variable {σ α : Type} {action : Action σ α} {s s' : σ}

theorem void_ok {u : Unit} (done : action.void s = (.ok u, s')) : ∃ a, action s = (.ok a, s') := by
  rcases run : action s with ⟨e | a, left⟩
  · simp [void, run, Except.map] at done
  · simp only [void, run, Except.map, Prod.mk.injEq] at done
    exact ⟨a, by rw [done.2]⟩

theorem void_error {e : StorageError} (failed : action.void s = (.error e, s')) :
    action s = (.error e, s') := by
  rcases run : action s with ⟨e | a, left⟩
  · simpa [void, run, Except.map] using failed
  · simp [void, run, Except.map] at failed

theorem isOk_void (s : σ) : (action.void s).1.isOk = (action s).1.isOk := by
  unfold void
  cases (action s).1 <;> rfl

theorem isOk_change (f : σ → Except StorageError (α × σ)) (s : σ) :
    (change f s).1.isOk = (f s).isOk := by
  unfold change
  cases f s <;> rfl

end Action

/-- Rows that are records count as these for their own table, and as none for another. -/
theorem Batch.decode_ok {α : Type} [Record α] {rows : List Json} {records : List α}
    (decoded : decode rows = .ok records) : (rows.mapM Record.ofJson?).getD [] = records := by
  unfold decode at decoded
  split at decoded
  · rename_i read
    cases decoded
    rw [read, Option.getD_some]
  · cases decoded

theorem Batch.ofRows_add {table : Table} {rows : List Json} {batch : Batch}
    (read : Batch.ofRows table rows = .ok batch) (s : Store) :
    s.add batch = s.receive (Call.insert table rows).arrivals := by
  unfold ofRows at read
  split_ifs at read with named named named named named named named named
  all_goals
    obtain ⟨records, decoded, rfl⟩ := Result.map_ok.mp read
    have own := decode_ok decoded
    simp +decide only [Call.arrivals, Record.inTable, named, own, if_true, if_false]
    simp only [Store.receive, List.foldl_nil, List.append_nil]
    rfl

theorem Call.action_ok {c : Call} {s s' : Store} (made : c.action s = (.ok (), s')) :
    s' = s.receive c.arrivals := by
  cases c with
  | seedCheckpoint height =>
    obtain ⟨n, done⟩ := Action.void_ok made
    have seeded := Store.backend_seedCheckpoint done
    rw [Store.seedCheckpoint_eq, Prod.mk.injEq] at seeded
    rw [← seeded.2, Store.raiseCheckpoint_eq]
    simp [Store.receive, arrivals]
  | insert table rows =>
    obtain ⟨n, done⟩ := Action.void_ok made
    obtain ⟨batch, read, -, rfl⟩ := Store.insert_ok (Store.backend_insert done)
    exact Batch.ofRows_add read s
  | commit w =>
    have committed := Store.backend_commit made
    unfold Store.commit at committed
    split at committed
    · cases committed
    · cases committed
      rw [Store.applyChunk, Store.raiseCheckpoint_eq]
      rfl

theorem Call.action_error {c : Call} {s s' : Store} {e : StorageError}
    (failed : c.action s = (.error e, s')) : s' = s := by
  cases c with
  | seedCheckpoint height =>
    exact (Store.backend_mirrors.seedCheckpoint height).error (Action.void_error failed)
  | insert table rows =>
    exact (Store.backend_mirrors.insert table rows).error (Action.void_error failed)
  | commit w => exact (Store.backend_mirrors.commit w).error failed

/-- What a call writes fits its tables. -/
def Call.Fits : Call → Prop
  | .seedCheckpoint _ => True
  | .insert table rows =>
    (∃ cells, table.validate rows = .ok cells) ∧ ∃ batch, Batch.ofRows table rows = .ok batch
  | .commit w => w.Fits

theorem Store.insert_fits (s : Store) (table : Table) (rows : List Json) :
    (∃ inserted, s.insert table rows = .ok inserted) ↔ (Call.insert table rows).Fits := by
  simp only [insert, Call.Fits]
  cases table.validate rows with
  | error e => simp
  | ok cells =>
    cases Batch.ofRows table rows with
    | error e => simp [bind, Except.bind]
    | ok batch => simp [bind, Except.bind, pure, Except.pure]

/-- It depends on the call alone whether it succeeds. -/
theorem Call.action_fits (c : Call) (s : Store) : (c.action s).1.isOk = true ↔ c.Fits := by
  cases c with
  | seedCheckpoint height => exact iff_of_true rfl trivial
  | insert table rows =>
    have change : (Store.backend.insert table rows s).1.isOk = (s.insert table rows).isOk :=
      Action.isOk_change _ s
    rw [action, Action.isOk_void, change, Result.isOk_iff, s.insert_fits]
  | commit w =>
    have change : (Store.backend.commit w s).1.isOk = (s.commit w).isOk :=
      (Action.isOk_change _ s).trans (by cases s.commit w <;> rfl)
    rw [action, change, Result.isOk_iff, commit_fits, Fits]

/-! ## Histories -/

/-- A store, and the calls on it that have succeeded. -/
structure History where
  store : Store := {}
  succeeded : List Call := []

namespace History

def call (h : History) (c : Call) : History :=
  match c.action h.store with
  | (.ok _, store) => ⟨store, h.succeeded ++ [c]⟩
  | (.error _, store) => { h with store }

/-- What becomes of an empty store. -/
def after (calls : List Call) : History := calls.foldl call {}

theorem after_append (calls more : List Call) :
    after (calls ++ more) = more.foldl call (after calls) := List.foldl_append

/-- The store has received what the calls brought. -/
def Received (h : History) : Prop :=
  h.store = ({} : Store).receive (.ofCalls h.succeeded)

theorem call_received {h : History} (received : h.Received) (c : Call) : (h.call c).Received := by
  unfold call
  split
  · rename_i store made
    have taken : store = h.store.receive c.arrivals := Call.action_ok made
    rw [Received, taken, received, Store.receive_ofCalls_append]
  · rename_i e store failed
    have same : store = h.store := Call.action_error failed
    rw [same]
    exact received

theorem received_empty : Received {} := by
  simp [Received, Store.receive, Arrivals.ofCalls]

theorem foldl_received {h : History} (received : h.Received) (calls : List Call) :
    (calls.foldl call h).Received := by
  induction calls generalizing h with
  | nil => exact received
  | cons c rest ih => exact ih (call_received received c)

theorem call_failed {h : History} {c : Call} (failed : (c.action h.store).1.isOk = false) :
    h.call c = h := by
  unfold call
  split
  · rename_i made
    simp [made, Except.isOk, Except.toBool] at failed
  · rename_i e store unmade
    have same : store = h.store := Call.action_error unmade
    rw [same]

end History

/-- The store holds what has come: the greatest height, every row of a table without keys, the
first row of each key or the last row of each address. -/
structure Store.Holds (s : Store) (a : Arrivals) : Prop where
  checkpoint : s.checkpoint = a.heights.max?
  swaps : s.swaps = a.swaps
  changes : s.changes = a.changes
  candles : s.candles = a.candles
  stakes : s.stakes = a.stakes
  earnings : s.earnings = a.earnings
  poolAmounts : FirstOfEach PoolAmount.key a.poolAmounts s.poolAmounts
  poolAprs : FirstOfEach PoolApr.key a.poolAprs s.poolAprs
  amountKeys : ∀ k, k ∈ s.keyedAmounts.keys ↔ ∃ row ∈ s.poolAmounts, row.key = k
  aprKeys : ∀ k, k ∈ s.keyedAprs.keys ↔ ∃ row ∈ s.poolAprs, row.key = k
  pairs : LastOfEach PairRow.address a.pairs s.pairInfos

theorem Store.receive_holds (a : Arrivals) : (({} : Store).receive a).Holds a where
  checkpoint := foldl_raised a.heights
  swaps := List.nil_append _
  changes := List.nil_append _
  candles := List.nil_append _
  stakes := List.nil_append _
  earnings := List.nil_append _
  poolAmounts := KeyedRows.firstOfEach a.poolAmounts
  poolAprs := KeyedRows.firstOfEach a.poolAprs
  amountKeys := KeyedRows.taken _
  aprKeys := KeyedRows.taken _
  pairs := lastOfEach_foldl a.pairs

/-- After any calls the store holds, by the rule of each table, what those brought that succeeded,
and its checkpoint is the greatest of their heights. A call succeeds if it fits its tables, and
without one that fails everything would be the same. -/
theorem history_holds (calls : List Call) :
    (History.after calls).store.Holds (.ofCalls (History.after calls).succeeded) ∧
    (Store.backend.loadCheckpoint (History.after calls).store).1 =
      .ok (Arrivals.ofCalls (History.after calls).succeeded).heights.max? ∧
    ∀ c, ((c.action (History.after calls).store).1.isOk = true ↔ c.Fits) ∧
      ((c.action (History.after calls).store).1.isOk = false →
        ∀ rest, History.after (calls ++ c :: rest) = History.after (calls ++ rest)) := by
  have received : (History.after calls).Received :=
    History.foldl_received History.received_empty calls
  have holds : (History.after calls).store.Holds (.ofCalls (History.after calls).succeeded) := by
    rw [received]
    exact Store.receive_holds _
  refine ⟨holds, congrArg Except.ok holds.checkpoint, fun c => ⟨c.action_fits _, ?_⟩⟩
  intro failed rest
  rw [History.after_append, History.after_append, List.foldl_cons, History.call_failed failed]

/-! A row whose key comes three times, once in a batch that is refused, and a pair that comes
twice. -/

def firstAmounts : PoolAmount := ⟨"1-p", "p", 10, 20, 5, 150, 1⟩

def laterAmounts : PoolAmount := ⟨"1-p", "p", 11, 19, 5, 160, 1⟩

def pairNamed (symbols : String) : PairRow := ⟨"p", "a", "b", "0.003", "l", "", symbols⟩

def earlyCalls : List Call :=
  [.seedCheckpoint 100, .insert PoolAmount.table [firstAmounts.toJson],
    .insert PairRow.table [(pairNamed "A/B").toJson]]

def refusedCall : Call := .insert PoolAmount.table [laterAmounts.toJson, .null]

def lateCalls : List Call :=
  [.commit { newHeight := 160, poolAmounts := [laterAmounts] },
    .insert PairRow.table [(pairNamed "B/A").toJson], .seedCheckpoint 120]

theorem history_holds_mixed :
    (History.after (earlyCalls ++ refusedCall :: lateCalls)).store.Holds
      (.ofCalls (History.after (earlyCalls ++ refusedCall :: lateCalls)).succeeded) ∧
    (refusedCall.action (History.after earlyCalls).store).1.isOk = false ∧
    History.after (earlyCalls ++ refusedCall :: lateCalls) =
      History.after (earlyCalls ++ lateCalls) ∧
    (History.after (earlyCalls ++ lateCalls)).store =
      { checkpoint := some 160, pairs := [("p", pairNamed "B/A")],
        keyedAmounts := KeyedRows.empty.upsert firstAmounts } := by
  have failed : (refusedCall.action (History.after earlyCalls).store).1.isOk = false := by
    decide +kernel
  obtain ⟨-, -, refused⟩ := history_holds earlyCalls
  exact ⟨(history_holds _).1, failed, (refused refusedCall).2 failed lateCalls, by decide +kernel⟩

end PoolIndexer
