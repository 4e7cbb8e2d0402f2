import PoolIndexer.Proofs.Delivery
import PoolIndexer.Proofs.Sql.Transacting

/-! Chunks on a server whose commits may fail. A commit that took effect without its report having
come back is made again with the next delivery, and every row of the chunk is inserted again. -/
namespace PoolIndexer.Sql

section

variable {σ : Type} {server : Server σ} {history : σ → List (List Statement)}
  {opened : σ → Option (List Statement)} {script : Option String} {config : IndexerConfig}
  {truth : Chain} {chunk : Chunk}

/-- What a chunk comes to when it is built for an indexer, whoever asks the chain. -/
def Builds (config : IndexerConfig) (truth : Chain) (chunk : Chunk) (i : Indexer σ)
    (write : ChunkWrite) : Prop :=
  ∃ chain, ∃ w v : World σ, chain.Follows truth ∧ w.registry = i.world.registry ∧
    Indexer.buildChunk config chain chunk i.run.checkpoint w = (.ok write, v)

/-- The tables without a key have gained the rows of a write some number of times. -/
def Gained (history : σ → List (List Statement)) (times : Nat) (before after : σ)
    (write : ChunkWrite) : Prop :=
  ∀ table ∈ appendTables, storedRows (history after) table =
    storedRows (history before) table ++ (List.replicate times (writtenRows write table)).flatten

/-- A chunk is delivered until it is acknowledged. Of the deliveries that were refused, `lost` many
had taken effect all the same. -/
inductive Redelivered (server : Server σ) (history : σ → List (List Statement))
    (script : Option String) (config : IndexerConfig) (truth : Chain) (chunk : Chunk) :
    Nat → Indexer σ → Indexer σ → Prop
  | accepted {chain : Chain} {i i' : Indexer σ} (follows : chain.Follows truth)
      (taken : Indexer.process config chain (server.backend script) chunk i = .ok (true, i')) :
      Redelivered server history script config truth chunk 0 i i'
  | refused {chain : Chain} {lost : Nat} {i u i' : Indexer σ} (follows : chain.Follows truth)
      (taken : Indexer.process config chain (server.backend script) chunk i = .ok (false, u))
      (without : history u.world.store = history i.world.store)
      (again : Redelivered server history script config truth chunk lost u i') :
      Redelivered server history script config truth chunk lost i i'
  | lost {chain : Chain} {lost : Nat} {i u i' : Indexer σ} (follows : chain.Follows truth)
      (taken : Indexer.process config chain (server.backend script) chunk i = .ok (false, u))
      (took : history u.world.store ≠ history i.world.store)
      (again : Redelivered server history script config truth chunk lost u i') :
      Redelivered server history script config truth chunk (lost + 1) i i'

/-- Whatever an indexer builds of a chunk, its rows in the tables without a key are the same. -/
theorem Builds.writtenRows_eq {i : Indexer σ} {write write' : ChunkWrite}
    (builds : Builds config truth chunk i write) (builds' : Builds config truth chunk i write') :
    writtenRows write = writtenRows write' := by
  obtain ⟨chain, w, v, follows, registry, built⟩ := builds
  obtain ⟨chain', w', v', follows', registry', built'⟩ := builds'
  have agree := Indexer.buildChunk_agree follows follows' (registry.trans registry'.symm)
    built built'
  unfold writtenRows
  rw [agree]

/-! ## One delivery -/

section

variable (laws : Transactional server history opened)
include laws

/-- An attempt that succeeds has taken effect once, and any other at most once. -/
theorem indexChunk_history {chain : Chain} {checkpoint : Nat} {w v : World σ}
    {result : Except Fault Unit}
    (indexed : Indexer.indexChunk config chain (server.backend script) chunk checkpoint w
      = (result, v)) :
    v.registry = w.registry ∧
      (result = .ok () → ∃ write u, Indexer.buildChunk config chain chunk checkpoint w = (.ok write, u)
        ∧ Gained history 1 w.store v.store write) ∧
      (history v.store = history w.store ∨
        ∃ write u, Indexer.buildChunk config chain chunk checkpoint w = (.ok write, u)
          ∧ Gained history 1 w.store v.store write) := by
  unfold Indexer.indexChunk at indexed
  rw [Task.bind_apply] at indexed
  have unchanged := Indexer.buildChunk_unchanged config chain chunk checkpoint w
  rcases built : Indexer.buildChunk config chain chunk checkpoint w with ⟨e | write, u⟩
  · rw [built] at indexed unchanged
    cases indexed
    exact ⟨unchanged.registry, by simp, .inl (by rw [unchanged.store])⟩
  · rw [built] at indexed unchanged
    have store : u.store = w.store := unchanged.store
    dsimp only at indexed
    unfold Task.perform at indexed
    rcases committed : (server.backend script).commit write u.store with ⟨outcome, s⟩
    obtain ⟨reported, either⟩ := commit_history laws committed
    have effect : (∃ batches, write.validatedBatches = .ok batches ∧
        history s = history u.store ++ [Server.chunkStatements batches write.newHeight]) →
        Gained history 1 w.store s write := by
      rintro ⟨batches, validated, took⟩
      intro table append
      rw [took, store, storedRows_chunk validated append, List.replicate_one,
        List.flatten_singleton]
    rw [committed] at indexed
    cases outcome with
    | error e =>
      cases indexed
      refine ⟨unchanged.registry, by simp, ?_⟩
      rcases either with same | took
      · exact .inl (same.trans (congrArg history store))
      · exact .inr ⟨write, u, rfl, effect took⟩
    | ok done =>
      cases indexed
      have once := effect (reported rfl)
      exact ⟨unchanged.registry, fun _ => ⟨write, u, rfl, once⟩, .inr ⟨write, u, rfl, once⟩⟩

/-- What one delivery does to an indexer at work that has not passed the chunk. -/
theorem process_history {chain : Chain} {i i' : Indexer σ} {acknowledged : Bool}
    (follows : chain.Follows truth) (ahead : i.run.checkpoint < chunk.newHeight)
    (taken : Indexer.process config chain (server.backend script) chunk i
      = .ok (acknowledged, i')) :
    (acknowledged = true → ∃ write, Builds config truth chunk i write ∧
      Gained history 1 i.world.store i'.world.store write) ∧
    (acknowledged = false → i'.world.registry = i.world.registry ∧
      i'.run.checkpoint = i.run.checkpoint ∧
      (history i'.world.store = history i.world.store ∨ ∃ write, Builds config truth chunk i write ∧
        Gained history 1 i.world.store i'.world.store write)) := by
  rcases Indexer.process_cases taken with ⟨_, rfl, rfl⟩ | ⟨_, passed, _, _⟩ |
    ⟨_, _, rfl, world, indexed, rfl⟩ | ⟨_, _, rfl, texts, world, failed, rfl⟩
  · exact ⟨by simp, fun _ => ⟨rfl, rfl, .inl rfl⟩⟩
  · omega
  · obtain ⟨_, done, _⟩ := indexChunk_history laws indexed
    obtain ⟨write, u, built, gained⟩ := done rfl
    exact ⟨fun _ => ⟨write, ⟨chain, _, u, follows, rfl, built⟩, gained⟩, by simp⟩
  · obtain ⟨registry, _, either⟩ := indexChunk_history laws failed
    refine ⟨by simp, fun _ => ⟨registry, Indexer.fail_checkpoint _ _ _, ?_⟩⟩
    rcases either with same | ⟨write, u, built, gained⟩
    · exact .inl same
    · exact .inr ⟨write, ⟨chain, _, u, follows, rfl, built⟩, gained⟩

/-! ## All deliveries -/

theorem redelivered_gained {lost : Nat} {i i' : Indexer σ}
    (redelivered : Redelivered server history script config truth chunk lost i i')
    (ahead : i.run.checkpoint < chunk.newHeight) :
    ∃ write, Builds config truth chunk i write ∧
      Gained history (lost + 1) i.world.store i'.world.store write := by
  induction redelivered with
  | accepted follows taken =>
    exact (process_history laws follows ahead taken).1 rfl
  | @refused chain lost i u i' follows taken without again ih =>
    obtain ⟨registry, checkpoint, _⟩ := (process_history laws follows ahead taken).2 rfl
    obtain ⟨write, ⟨chain', w, v, follows', same, built⟩, gained⟩ := ih (by omega)
    rw [checkpoint] at built
    refine ⟨write, ⟨chain', w, v, follows', same.trans registry, built⟩, ?_⟩
    unfold Gained
    rw [← without]
    exact gained
  | @lost chain lost i u i' follows taken took again ih =>
    obtain ⟨registry, checkpoint, either⟩ := (process_history laws follows ahead taken).2 rfl
    obtain ⟨write, ⟨chain', w, v, follows', same, built⟩, gained⟩ := ih (by omega)
    rw [checkpoint] at built
    have builds : Builds config truth chunk i write :=
      ⟨chain', w, v, follows', same.trans registry, built⟩
    rcases either with unchanged | ⟨first, buildsFirst, once⟩
    · exact absurd unchanged took
    -- the rows of this delivery were built for the same checkpoint as those that come after it
    · refine ⟨write, builds, fun table append => ?_⟩
      rw [gained table append, once table append, buildsFirst.writtenRows_eq builds,
        List.append_assoc, ← List.flatten_append, List.replicate_append_replicate]
      congr 3
      omega

/-- A chunk that is delivered until it is acknowledged is inserted once, and once more for every
delivery that was refused although it had taken effect. So its rows are there exactly once if and
only if there was no such delivery, or no row. -/
theorem redelivered_rows {lost : Nat} {i i' : Indexer σ}
    (redelivered : Redelivered server history script config truth chunk lost i i')
    (ahead : i.run.checkpoint < chunk.newHeight) :
    ∃ write, Builds config truth chunk i write ∧
      Gained history (lost + 1) i.world.store i'.world.store write ∧
      (Gained history 1 i.world.store i'.world.store write ↔
        lost = 0 ∨ ∀ table ∈ appendTables, writtenRows write table = []) := by
  obtain ⟨write, builds, gained⟩ := redelivered_gained laws redelivered ahead
  refine ⟨write, builds, gained, ?_⟩
  constructor
  · intro once
    by_cases none : lost = 0
    · exact .inl none
    · refine .inr fun table append => ?_
      have lengths := congrArg List.length ((gained table append).symm.trans (once table append))
      simp only [List.length_append, List.length_flatten, List.map_replicate,
        List.sum_replicate_nat] at lengths
      have product : (lost + 1) * (writtenRows write table).length =
          lost * (writtenRows write table).length + (writtenRows write table).length := by
        rw [Nat.add_mul, Nat.one_mul]
      have zero : lost * (writtenRows write table).length = 0 := by omega
      rcases Nat.mul_eq_zero.mp zero with absent | empty
      · exact absurd absent none
      · exact List.length_eq_zero_iff.mp empty
  · rintro (rfl | empty)
    · exact gained
    · intro table append
      rw [gained table append, empty table append]
      simp

end
end

/-! ## A server that loses reports -/

/-- A server that keeps the transactions which took effect, and that is silent about some commits
to come. What is sent outside of a transaction is answered and not kept. -/
structure LossyServer where
  history : List (List Statement) := []
  opened : Option (List Statement) := none
  /-- How many of the next commits are not reported. -/
  silent : Nat := 0

namespace LossyServer

/-- Tables are counted as empty, and other queries give no rows. -/
def answer (statement : Statement) : ResultSet :=
  if ∃ table ∈ allTables, statement = (countRows table).statement then
    { columns := [("count", .int)], rows := [[.int 0]] }
  else {}

def send (command : Command) (s : LossyServer) : Option ResultSet × LossyServer :=
  match command with
  | .start => (some {}, { s with opened := some [] })
  | .run statement =>
    match s.opened with
    | some before => (some (answer statement), { s with opened := some (before ++ [statement]) })
    | none => (some (answer statement), s)
  | .commit =>
    match s.opened with
    | some statements =>
      (if s.silent = 0 then some {} else none,
        { history := s.history ++ [statements], silent := s.silent - 1 })
    | none => (some {}, s)
  | .rollback => (some {}, { s with opened := none })

def tell (command : Command) (s : LossyServer) : LossyServer := (send command s).2

def server : Server LossyServer := ⟨fun s => (true, s), send, tell⟩

theorem transactional : Transactional server history opened where
  connect _ := rfl
  start sent := by
    cases sent
    exact ⟨rfl, fun _ => rfl⟩
  run {s result s' statement before} sent under := by
    simp only [server, send, under] at sent
    cases sent
    exact ⟨rfl, fun _ => rfl⟩
  commit {s result s' statements} sent under := by
    simp only [server, send, under, Prod.mk.injEq] at sent
    rw [← sent.2]
  lost {s s' statements} sent under := by
    simp only [server, send, under, Prod.mk.injEq] at sent
    rw [← sent.2]
    exact .inr rfl
  rollback _ := rfl

end LossyServer

/-! The chunk of one stake, whose first commit the server is silent about. -/

section

open Delivery

def lossyBackend : Backend LossyServer := LossyServer.server.backend (some "")

def lossySeeded : Indexer LossyServer := quietSeeded lossyBackend (.start { silent := 1 })

def lossyRefused : Indexer LossyServer := stakeTaken lossyBackend lossySeeded

def lossyAccepted : Indexer LossyServer := stakeTaken lossyBackend lossyRefused

theorem stake_redelivered : Redelivered LossyServer.server LossyServer.history (some "")
    quietConfig quietChain stakeChunk 1 lossySeeded lossyAccepted := by
  have follows := quietChain.follows_self
  have refusing : Indexer.process quietConfig quietChain lossyBackend stakeChunk lossySeeded =
      .ok (false, lossyRefused) := stake_taken (by decide +kernel)
  have accepting : Indexer.process quietConfig quietChain lossyBackend stakeChunk lossyRefused =
      .ok (true, lossyAccepted) := stake_taken (by decide +kernel)
  have longer : lossyRefused.world.store.history.length ≠
      lossySeeded.world.store.history.length := by decide +kernel
  have took : lossyRefused.world.store.history ≠ lossySeeded.world.store.history :=
    fun same => longer (congrArg List.length same)
  exact .lost follows refusing took (.accepted follows accepting)

/-- What the chunk comes to. -/
def stakeWrite : ChunkWrite where
  newHeight := 200
  stakes := [
    { key := "1689174781-A-alice-lp-5"
      txHash := "A"
      height := 150
      time := 1689174781
      staker := "alice"
      token := "lp"
      amount := 5 }]

theorem stake_builds : Builds quietConfig quietChain stakeChunk lossySeeded stakeWrite := by
  have built : (Indexer.buildChunk quietConfig quietChain stakeChunk lossySeeded.run.checkpoint
      lossySeeded.world).1.toOption = some stakeWrite := by decide +kernel
  refine ⟨quietChain, lossySeeded.world, _, quietChain.follows_self, rfl, Prod.ext ?_ rfl⟩
  cases result : (Indexer.buildChunk quietConfig quietChain stakeChunk lossySeeded.run.checkpoint
      lossySeeded.world).1 with
  | error e => simp [result, Except.toOption] at built
  | ok write =>
    simp only [result, Except.toOption, Option.some.injEq] at built
    rw [built]

/-- The row of the stake. -/
def stakeRow : List Parameter :=
  [.text "1689174781-A-alice-lp-5", .text "A", .int 150, .int 1689174781, .text "alice",
    .text "lp", .text "5", .text "0"]

/-- The indexer is seeded, the chunk is acknowledged in the end, and its stake is there twice. -/
theorem stake_inserted_twice :
    Transactional LossyServer.server LossyServer.history LossyServer.opened ∧
      Indexer.seed quietConfig quietChain lossyBackend (0 : Int) (.start { silent := 1 }) =
        .ok (.ok (), lossySeeded) ∧
      Redelivered LossyServer.server LossyServer.history (some "") quietConfig quietChain
        stakeChunk 1 lossySeeded lossyAccepted ∧
      storedRows lossySeeded.world.store.history Stake.table = [] ∧
      storedRows lossyAccepted.world.store.history Stake.table = [stakeRow, stakeRow] := by
  have empty : storedRows lossySeeded.world.store.history Stake.table = [] := by decide +kernel
  have written : writtenRows stakeWrite Stake.table = [stakeRow] := by decide +kernel
  obtain ⟨write, builds, gained⟩ :=
    redelivered_gained LossyServer.transactional stake_redelivered (by decide +kernel)
  have twice := gained Stake.table (by decide)
  rw [builds.writtenRows_eq stake_builds, written, empty] at twice
  exact ⟨LossyServer.transactional, quiet_seeded (by decide +kernel), stake_redelivered, empty,
    twice⟩

theorem redelivered_rows_stake :
    ∃ write, Builds quietConfig quietChain stakeChunk lossySeeded write ∧
      Gained LossyServer.history 2 lossySeeded.world.store lossyAccepted.world.store write ∧
      (Gained LossyServer.history 1 lossySeeded.world.store lossyAccepted.world.store write ↔
        1 = 0 ∨ ∀ table ∈ appendTables, writtenRows write table = []) :=
  redelivered_rows LossyServer.transactional stake_redelivered (by decide +kernel)

end
end PoolIndexer.Sql
