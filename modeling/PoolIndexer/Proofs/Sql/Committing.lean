import Mathlib.Data.List.Forall2
import PoolIndexer.Proofs.Sql.Rows
import PoolIndexer.Sql.Client
import PoolIndexer.Sql.Scripted

/-! What a client says to a server to write a chunk, whichever of its commands fails. A server that
keeps a record of what it is told answers like the one without it, and the record shows the plan of
the transaction up to the first command that failed. -/
namespace PoolIndexer.Sql

variable {σ : Type}

/-! ## Steps of a session -/

namespace Server

variable {α : Type} (server : Server σ)

theorem acquire_bind (next : Unit → Session σ α) (s : σ) :
    (server.acquire >>= next) s = match server.connect s with
      | (true, u) => next () u
      | (false, u) => (.error .noConnection, u) := by
  change Session.bind server.acquire next s = _
  unfold Session.bind acquire
  rcases server.connect s with ⟨_ | _, u⟩ <;> rfl

theorem executeAll_cons (statement : Statement) (rest : List Statement) (s : σ) :
    server.executeAll (statement :: rest) s = match server.send (.run statement) s with
      | (some _, u) => server.executeAll rest u
      | (none, u) => (.error .statement, u) := by
  change Session.bind (server.execute statement) (fun _ => server.executeAll rest) s = _
  unfold Session.bind execute sendOr
  rcases server.send (.run statement) s with ⟨_ | _, u⟩ <;> rfl

end Server

/-! ## Recording -/

/-- What a server is told: a command, and whether it succeeded, or a command nobody waits for. -/
inductive Message
  | sent (command : Command) (succeeded : Bool)
  | told (command : Command)
  deriving DecidableEq, Repr

/-- A command that was sent, with its outcome. -/
def Message.outcome? : Message → Option (Command × Bool)
  | .sent command succeeded => some (command, succeeded)
  | .told _ => none

/-- The commands that were sent, each with its outcome. -/
def outcomes (record : List Message) : List (Command × Bool) := record.filterMap Message.outcome?

/-- The server together with a record of what it is told. -/
def Server.recorded (server : Server σ) : Server (σ × List Message) where
  connect s := ((server.connect s.1).1, (server.connect s.1).2, s.2)
  send command s :=
    let (result, left) := server.send command s.1
    (result, left, s.2 ++ [.sent command result.isSome])
  tell command s := (server.tell command s.1, s.2 ++ [.told command])

/-- Commands that were sent and succeeded. -/
def succeeded (commands : List Command) : List Message := commands.map (.sent · true)

theorem outcomes_succeeded (commands : List Command) :
    outcomes (succeeded commands) = commands.map (·, true) := by
  induction commands with
  | nil => rfl
  | cons command rest ih => simpa [outcomes, succeeded, Message.outcome?] using ih

theorem outcomes_append (first later : List Message) :
    outcomes (first ++ later) = outcomes first ++ outcomes later := List.filterMap_append

/-! ## Transactions -/

/-- How statements are executed one after the other: all of them, or up to the first that fails. -/
inductive Executed : List Statement → List Message → Except StorageError Unit → Prop
  | all (statements) : Executed statements (succeeded (statements.map .run)) (.ok ())
  | failed (before statement after) :
    Executed (before ++ statement :: after)
      (succeeded (before.map .run) ++ [.sent (.run statement) false]) (.error .statement)

/-- How a plan that ends with a commit is carried out in a transaction. -/
inductive Transacted (plan : List Command) (commitError : StorageError) :
    List Message → Except StorageError Unit → Prop
  | committed : Transacted plan commitError (succeeded plan) (.ok ())
  | refused (before) : plan = before ++ [.commit] →
    Transacted plan commitError (succeeded before ++ [.sent .commit false]) (.error commitError)
  | givenUp (before command after) : plan = before ++ command :: after → command ≠ .commit →
    Transacted plan commitError (succeeded before ++ [.sent command false, .told .rollback])
      (.error .statement)

namespace Server

variable (server : Server σ)

theorem recorded_send {command : Command} {s u : σ} {result : Option ResultSet}
    (sent : server.send command s = (result, u)) (record : List Message) :
    server.recorded.send command (s, record) =
      (result, u, record ++ [.sent command result.isSome]) := by
  simp [recorded, sent]

/-- The record of a server does not change what executing statements comes to. -/
theorem recorded_executeAll {statements : List Statement} {s s' : σ}
    {result : Except StorageError Unit} (executed : server.executeAll statements s = (result, s'))
    (record : List Message) :
    ∃ messages, Executed statements messages result ∧
      server.recorded.executeAll statements (s, record) = (result, s', record ++ messages) := by
  induction statements generalizing s record with
  | nil =>
    cases executed
    exact ⟨[], .all [], by simp [executeAll, pure, Session.pure]⟩
  | cons statement rest ih =>
    rcases sent : server.send (.run statement) s with ⟨answer, u⟩
    rw [executeAll_cons, sent] at executed
    rw [executeAll_cons, server.recorded_send sent]
    cases answer with
    | none =>
      cases executed
      exact ⟨_, .failed [] statement rest, rfl⟩
    | some rows =>
      obtain ⟨messages, done, recorded⟩ := ih executed (record ++ [.sent (.run statement) true])
      refine ⟨.sent (.run statement) true :: messages, ?_, by simpa using recorded⟩
      cases done with
      | all => exact .all (statement :: rest)
      | failed before other after => exact .failed (statement :: before) other after

/-- The plan of a transaction. -/
def transaction (statements : List Statement) : List Command :=
  .start :: statements.map .run ++ [.commit]

theorem recorded_transact {statements : List Statement} {commitError : StorageError} {s s' : σ}
    {result : Except StorageError Unit}
    (transacted : server.transact commitError statements s = (result, s')) (record : List Message) :
    ∃ messages, Transacted (transaction statements) commitError messages result ∧
      server.recorded.transact commitError statements (s, record) =
        (result, s', record ++ messages) := by
  unfold transact sendOr at transacted ⊢
  rcases started : server.send .start s with ⟨answer, u⟩
  rw [started] at transacted
  rw [server.recorded_send started]
  cases answer with
  | none =>
    cases transacted
    exact ⟨_, .givenUp [] .start _ rfl (by simp), by simp [giveUp, recorded, succeeded]⟩
  | some rows =>
    dsimp only at transacted ⊢
    rcases executed : server.executeAll statements u with ⟨outcome, v⟩
    obtain ⟨messages, done, recorded⟩ :=
      server.recorded_executeAll executed (record ++ [.sent .start true])
    rw [executed] at transacted
    simp only [Option.isSome_some, recorded]
    cases done with
    | failed before statement after =>
      cases transacted
      refine ⟨_, .givenUp (.start :: before.map .run) (.run statement)
        (after.map .run ++ [.commit]) ?_ (by simp), ?_⟩
      · simp [transaction]
      · simp [giveUp, Server.recorded, succeeded]
    | all =>
      dsimp only at transacted ⊢
      rcases sent : server.send .commit v with ⟨reported, t⟩
      rw [sent] at transacted
      rw [server.recorded_send sent]
      cases reported with
      | none =>
        cases transacted
        exact ⟨_, .refused (.start :: statements.map .run) rfl, by simp [succeeded]⟩
      | some rows =>
        cases transacted
        exact ⟨_, .committed, by simp [succeeded, transaction]⟩

end Server

/-! ## Keeping to a plan -/

/-- What was sent is the beginning of a plan, and every command but the last one has succeeded. It
ends with the plan, or with a command that failed. The commit is sent after all the rest of the
plan, and it decides. Nothing follows but a rollback, where what failed is not the commit. -/
structure Keeps (plan : List Command) (messages : List Message)
    (result : Except StorageError Unit) : Prop where
  inOrder : (outcomes messages).map (·.1) <+: plan
  stops : ∀ outcome ∈ (outcomes messages).dropLast, outcome.2 = true
  ends : (outcomes messages).map (·.1) = plan ∨
    ∃ command, (outcomes messages).getLast? = some (command, false)
  commits : .commit ∈ (outcomes messages).map (·.1) → (outcomes messages).map (·.1) = plan
  reported : result.isOk = true ↔ (.commit, true) ∈ outcomes messages
  rollback : messages = (outcomes messages).map (fun outcome => .sent outcome.1 outcome.2) ++
    if ∃ outcome ∈ outcomes messages, outcome.1 ≠ .commit ∧ outcome.2 = false then
      [.told .rollback]
    else []

/-- Where nothing fails, the whole plan is carried out. -/
theorem Keeps.whole {plan : List Command} {messages : List Message}
    {result : Except StorageError Unit} (keeps : Keeps plan messages result)
    (unfailing : ∀ outcome ∈ outcomes messages, outcome.2 = true) :
    outcomes messages = plan.map (·, true) := by
  rcases keeps.ends with whole | ⟨command, failed⟩
  · have each : (outcomes messages).map (fun outcome => (outcome.1, true)) =
        (outcomes messages).map id :=
      List.map_congr_left fun outcome member => Prod.ext rfl (unfailing outcome member).symm
    rw [← whole, List.map_map]
    exact (each.trans (List.map_id _)).symm
  · exact absurd (unfailing _ (List.mem_of_getLast? failed)) Bool.false_ne_true

/-- Nothing is committed before the end of a transaction. -/
theorem commit_notMem {statements : List Statement} {before after : List Command}
    {command : Command} (plan : Server.transaction statements = before ++ command :: after) :
    .commit ∉ before := by
  have early : before <+: .start :: statements.map .run := by
    have dropped := congrArg List.dropLast plan
    rw [Server.transaction, List.dropLast_concat,
      List.dropLast_append_of_ne_nil (List.cons_ne_nil command after)] at dropped
    exact ⟨_, dropped.symm⟩
  intro among
  simpa using early.subset among

theorem Transacted.keeps {statements : List Statement} {commitError : StorageError}
    {messages : List Message} {result : Except StorageError Unit}
    (transacted : Transacted (Server.transaction statements) commitError messages result) :
    Keeps (Server.transaction statements) messages result := by
  cases transacted with
  | committed =>
    have sent := outcomes_succeeded (Server.transaction statements)
    have whole : (outcomes (succeeded (Server.transaction statements))).map (·.1) =
        Server.transaction statements := by
      simp [sent, Function.comp_def]
    have ends : .commit ∈ Server.transaction statements := by simp [Server.transaction]
    constructor
    · simp only [whole, List.prefix_rfl]
    · intro outcome among
      rw [sent, ← List.map_dropLast] at among
      obtain ⟨command, -, rfl⟩ := List.mem_map.mp among
      rfl
    · exact .inl whole
    · exact fun _ => whole
    · simp [sent, ends, Except.isOk, Except.toBool]
    · rw [sent]
      simp [succeeded, Function.comp_def]
  | refused before plan =>
    have early := commit_notMem plan
    have sent : outcomes (succeeded before ++ [.sent .commit false]) =
        before.map (·, true) ++ [(.commit, false)] := by
      rw [outcomes_append, outcomes_succeeded]
      rfl
    have whole : (outcomes (succeeded before ++ [.sent .commit false])).map (·.1) =
        Server.transaction statements := by
      simp [sent, Function.comp_def, plan]
    constructor
    · simp only [whole, List.prefix_rfl]
    · simp [sent]
    · exact .inl whole
    · exact fun _ => whole
    · simp [sent, early, Except.isOk, Except.toBool]
    · rw [sent]
      simp [succeeded, Function.comp_def]
  | givenUp before command after plan other =>
    have early := commit_notMem plan
    have sent : outcomes (succeeded before ++ [.sent command false, .told .rollback]) =
        before.map (·, true) ++ [(command, false)] := by
      rw [outcomes_append, outcomes_succeeded]
      rfl
    constructor
    · simp [sent, Function.comp_def, plan]
    · simp [sent]
    · exact .inr ⟨command, by simp [sent]⟩
    · simp [sent, Function.comp_def, early, other.symm]
    · simp [sent, early, Except.isOk, Except.toBool]
    · rw [sent]
      simp [succeeded, other, Function.comp_def]

/-! ## Chunks -/

/-- Statements that insert the rows of a batch: in order, all of them, and some in each. -/
def Inserts (batch : Table × List Row) (statements : List Statement) : Prop :=
  ∃ groups : List (List Row), groups.flatten = batch.2 ∧ [] ∉ groups ∧
    statements = groups.map (insertStatement batch.1)

/-- A batch of one row is inserted by one statement. -/
theorem Inserts.of_single {table : Table} {row : Row} {statements : List Statement}
    (inserts : Inserts (table, [row]) statements) : statements = [insertStatement table [row]] := by
  obtain ⟨groups, whole, filled, rfl⟩ := inserts
  cases groups with
  | nil => cases whole
  | cons group rest =>
    rcases List.append_eq_singleton_iff.mp whole with ⟨rfl, -⟩ | ⟨rfl, none⟩
    · exact absurd List.mem_cons_self filled
    · cases rest with
      | nil => rfl
      | cons other more =>
        obtain rfl : other = [] := (List.append_eq_nil_iff.mp none).1
        exact absurd (List.mem_cons_of_mem _ List.mem_cons_self) filled

theorem nil_notMem_runs {α : Type} (size : Nat) (items : List α) : [] ∉ runs size items := by
  induction items using runs.induct size with
  | case1 => simp [runs]
  | case2 a rest ih => simpa [runs] using ih

theorem insertStatements_inserts (batch : Table × List Row) :
    Inserts batch (insertStatements batch.1 batch.2) :=
  ⟨_, flatten_runs _ _, nil_notMem_runs _ _, rfl⟩

/-- The plan for a chunk, batch by batch. -/
theorem transaction_chunk (batches : List (Table × List Row)) (height : Nat) :
    Server.transaction (Server.chunkStatements batches height) =
      .start :: (batches.map fun batch => insertStatements batch.1 batch.2).flatten.map .run ++
        [.run (raiseCheckpoint height), .commit] := by
  simp [Server.transaction, Server.chunkStatements, List.flatMap_def]

theorem batch_ne_nil {α : Type} [Record α] {records : List α} {batches : List (Table × List Row)}
    (validated : ChunkWrite.batch records = .ok batches) : ∀ batch ∈ batches, batch.2 ≠ [] := by
  intro batch member empty
  obtain ⟨-, checked⟩ := batch_ok validated batch member
  have length := Result.mapM_length checked
  cases records with
  | nil =>
    cases validated
    cases member
  | cons record rest => simp [empty] at length

/-- A chunk is written in one transaction. If its batches do not pass their check, or no connection
can be taken, the server is told nothing. Else what is sent keeps to the plan: a start, the
statements that insert the rows of each batch, the one that raises the checkpoint, the commit. -/
theorem commit_keeps (server : Server σ) (w : ChunkWrite) (s : σ) :
    ∃ result s' messages, server.commit w s = (result, s') ∧
      server.recorded.commit w (s, []) = (result, s', messages) ∧
      match w.validatedBatches with
      | .error e => result = .error (.refused e) ∧ s' = s ∧ messages = []
      | .ok batches =>
        (∀ batch ∈ batches, batch.2 ≠ []) ∧
        ∃ inserts : List (List Statement), List.Forall₂ Inserts batches inserts ∧
          match server.connect s with
          | (false, u) => result = .error .noConnection ∧ s' = u ∧ messages = []
          | (true, _) =>
            Keeps (.start :: inserts.flatten.map .run ++
              [.run (raiseCheckpoint w.newHeight), .commit]) messages result := by
  unfold Server.commit
  cases validated : w.validatedBatches with
  | error e => exact ⟨_, _, _, rfl, rfl, rfl, rfl, rfl⟩
  | ok batches =>
    have filled := validatedBatches_all (fun _ => batch_ne_nil) validated
    have inserted : List.Forall₂ Inserts batches
        (batches.map fun batch => insertStatements batch.1 batch.2) :=
      List.forall₂_map_right_iff.mpr (List.forall₂_same.mpr fun batch _ =>
        insertStatements_inserts batch)
    simp only [Server.acquire_bind]
    rcases connected : server.connect s with ⟨_ | _, u⟩
    · refine ⟨.error .noConnection, u, [], rfl, ?_, filled, _, inserted, rfl, rfl, rfl⟩
      simp [Server.recorded, connected]
    · rcases transacted : server.transact (.failed "Failed to commit chunk transaction")
        (Server.chunkStatements batches w.newHeight) u with ⟨result, s'⟩
      obtain ⟨messages, done, recorded⟩ := server.recorded_transact transacted []
      refine ⟨result, s', messages, transacted, ?_, filled, _, inserted, ?_⟩
      · simpa [Server.recorded, connected] using recorded
      · have plan := done.keeps
        rwa [transaction_chunk] at plan

/-! A swap and a stake, in two batches, and a server that fails at the second of them or not at
all. -/

def tradeWrite : ChunkWrite where
  newHeight := 200
  swaps := [{
    key := "A-1"
    txHash := "A"
    height := 150
    time := 1689174781
    pairAddress := "pair"
    sender := "alice"
    offerDenom := "orai"
    offerAmount := 10
    askDenom := "usdt"
    returnAmount := 19 }]
  stakes := [{
    key := "1689174781-A-alice-lp-5"
    txHash := "A"
    height := 150
    time := 1689174781
    staker := "alice"
    token := "lp"
    amount := 5 }]

def tradeSwap : Row :=
  [.text "A-1", .text "A", .bigint 150, .bigint 1689174781, .text "pair", .text "alice",
    .text "orai", .numeric 10, .text "usdt", .numeric 19, .numeric 0, .numeric 0, .numeric 0,
    .numeric 0, .numeric 0]

def tradeStake : Row :=
  [.text "1689174781-A-alice-lp-5", .text "A", .bigint 150, .bigint 1689174781, .text "alice",
    .text "lp", .numeric 5, .numeric 0]

def tradeBatches : List (Table × List Row) :=
  [(Swap.table, [tradeSwap]), (Stake.table, [tradeStake])]

theorem trade_validated : tradeWrite.validatedBatches = .ok tradeBatches := by rfl

def tradePlan : List Command :=
  [.start, .run (insertStatement Swap.table [tradeSwap]),
    .run (insertStatement Stake.table [tradeStake]), .run (raiseCheckpoint 200), .commit]

theorem trade_inserts {inserts : List (List Statement)}
    (inserted : List.Forall₂ Inserts tradeBatches inserts) :
    .start :: inserts.flatten.map .run ++ [.run (raiseCheckpoint tradeWrite.newHeight), .commit] =
      tradePlan := by
  obtain ⟨swaps, _, first, others, rfl⟩ := List.forall₂_cons_left_iff.mp inserted
  obtain ⟨stakes, _, second, none, rfl⟩ := List.forall₂_cons_left_iff.mp others
  cases none
  rw [first.of_single, second.of_single]
  rfl

/-- Where nothing fails, all of the plan is sent and the commit is acknowledged. Where the stake
cannot be inserted, that is the last that is sent before the swap is rolled back. -/
theorem commit_keeps_trade :
    (∃ s', ScriptedServer.server.recorded.commit tradeWrite ({}, []) =
      (.ok (), s', succeeded tradePlan)) ∧
    ∃ e s', ScriptedServer.server.recorded.commit tradeWrite ({ replies := [some {}, none] }, []) =
      (.error e, s', [.sent .start true,
        .sent (.run (insertStatement Swap.table [tradeSwap])) true,
        .sent (.run (insertStatement Stake.table [tradeStake])) false, .told .rollback]) := by
  have planned : ∀ s : ScriptedServer, s.reachable = true → ∃ result s' messages,
      ScriptedServer.server.recorded.commit tradeWrite (s, []) = (result, s', messages) ∧
        Keeps tradePlan messages result := by
    intro s reachable
    obtain ⟨result, s', messages, -, recorded, kept⟩ :=
      commit_keeps ScriptedServer.server tradeWrite s
    rw [trade_validated] at kept
    obtain ⟨-, inserts, inserted, keeps⟩ := kept
    have connects : ScriptedServer.server.connect s = (true, { s with connected := true }) := by
      simp [ScriptedServer.server, ScriptedServer.connect, reachable]
    rw [connects] at keeps
    exact ⟨result, s', messages, recorded, trade_inserts inserted ▸ keeps⟩
  constructor
  · obtain ⟨result, s', messages, recorded, keeps⟩ := planned {} rfl
    have unfailing : ∀ outcome ∈
        outcomes (ScriptedServer.server.recorded.commit tradeWrite ({}, [])).2.2,
        outcome.2 = true := by decide +kernel
    rw [recorded] at unfailing
    have whole := keeps.whole unfailing
    have acknowledged : result.isOk = true := keeps.reported.mpr (by simp [whole, tradePlan])
    have said : messages = succeeded tradePlan := by
      rw [keeps.rollback, whole]
      simp [succeeded, tradePlan]
    cases result with
    | error e => cases acknowledged
    | ok _ => exact ⟨s', said ▸ recorded⟩
  · obtain ⟨result, s', messages, recorded, keeps⟩ :=
      planned { replies := [some {}, none] } rfl
    have fails : (outcomes (ScriptedServer.server.recorded.commit tradeWrite
        ({ replies := [some {}, none] }, [])).2.2).map (·.2) = [true, true, false] := by
      decide +kernel
    rw [recorded] at fails
    have three : (outcomes messages).length = 3 := by
      rw [← List.length_map (·.2), fails]
      rfl
    have sent : (outcomes messages).map (·.1) = tradePlan.take 3 := by
      rw [List.prefix_iff_eq_take.mp keeps.inOrder, List.length_map, three]
    have seen : outcomes messages = (tradePlan.take 3).zip [true, true, false] := by
      rw [← sent, ← fails]
      exact (List.zip_unzip (outcomes messages)).symm.trans (by rw [List.unzip_eq_map])
    have refused : ¬ result.isOk = true := by
      rw [keeps.reported, seen]
      simp [tradePlan]
    have said : messages = [.sent .start true,
        .sent (.run (insertStatement Swap.table [tradeSwap])) true,
        .sent (.run (insertStatement Stake.table [tradeStake])) false, .told .rollback] := by
      rw [keeps.rollback, seen]
      simp [tradePlan]
    cases result with
    | error e => exact ⟨e, s', said ▸ recorded⟩
    | ok _ => exact absurd rfl refused

/-- A transaction without rows whose commit fails. -/
example : (outcomes (ScriptedServer.server.recorded.commit { newHeight := 7 }
    ({ failing := some .commit }, [])).2.2).map (·.2) = [true, true, false] := by
  decide +kernel

end PoolIndexer.Sql
