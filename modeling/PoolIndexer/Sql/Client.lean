import PoolIndexer.Retry
import PoolIndexer.Sql.Query
import PoolIndexer.Sql.Schema
import PoolIndexer.Sql.Script
import PoolIndexer.Store.Backend

/-!
The store kept by an SQL server.

Batches are checked before a connection is taken. What a write sends stands in one transaction: it
is committed only after every statement of it has succeeded, and given up at the first that fails.
-/
namespace PoolIndexer.Sql

/-- What a client does with a server. -/
def Session (σ α : Type) : Type := Action σ α

namespace Session

variable {σ α β : Type}

protected def pure (a : α) : Session σ α := fun s => (.ok a, s)

protected def bind (t : Session σ α) (next : α → Session σ β) : Session σ β := fun s =>
  match t s with
  | (.ok a, s) => next a s
  | (.error e, s) => (.error e, s)

instance : Monad (Session σ) where
  pure := Session.pure
  bind := Session.bind

def fail (error : StorageError) : Session σ α := fun s => (.error error, s)

/-- Goes on with a result, or fails as it did. -/
def ofExcept (result : Except StorageError α) : Session σ α := fun s => (result, s)

end Session

namespace Server

variable {σ α : Type} (server : Server σ)

/-- Takes a connection. -/
def acquire : Session σ Unit := fun s =>
  match server.connect s with
  | (true, s) => (.ok (), s)
  | (false, s) => (.error .noConnection, s)

/-- Carries out a command; a failure has the given cause. -/
def sendOr (error : StorageError) (command : Command) : Session σ ResultSet := fun s =>
  match server.send command s with
  | (some result, s) => (.ok result, s)
  | (none, s) => (.error error, s)

def execute (statement : Statement) : Session σ ResultSet :=
  server.sendOr .statement (.run statement)

/-- Executes statements until one fails. -/
def executeAll : List Statement → Session σ Unit
  | [] => return ()
  | statement :: rest => do
    let _ ← server.execute statement
    executeAll rest

/-- The rows of a query. -/
def query (q : Query α) : Session σ (List α) := do
  server.acquire
  let result ← server.execute q.statement
  Session.ofExcept (result.records.mapM q.read)

/-- The row of a query that gives one row at most. -/
def queryOptional (q : Query α) : Session σ (Option α) := do
  server.acquire
  let result ← server.execute q.statement
  match result.records with
  | [] => return none
  | [row] => return some (← Session.ofExcept (q.read row))
  | _ => Session.fail .statement

/-- The row of a query that gives exactly one row. -/
def queryOne (q : Query α) : Session σ α := do
  match ← server.queryOptional q with
  | some a => return a
  | none => Session.fail .statement

/-- Gives up a transaction, without waiting for the server to agree. -/
def giveUp (error : StorageError) : Session σ α := fun s => (.error error, server.tell .rollback s)

/-- Executes statements in a transaction: it ends with a commit if all succeed, and else with a
rollback. A commit that fails has the given cause, and nothing is sent after it. -/
def transact (commitError : StorageError) (statements : List Statement) : Session σ Unit := fun s =>
  match server.sendOr .statement .start s with
  | (.error e, s) => server.giveUp e s
  | (.ok _, s) =>
    match server.executeAll statements s with
    | (.error e, s) => server.giveUp e s
    | (.ok _, s) =>
      match server.sendOr commitError .commit s with
      | (.error e, s) => (.error e, s)
      | (.ok _, s) => (.ok (), s)

/-! ## Opening -/

/-- The pauses between attempts to connect, in milliseconds. -/
def connectPauses : List Nat := [200, 400]

/-- Makes the first connection, with several attempts. -/
def establish (pause : Nat → σ → σ) : Session σ Unit := fun s =>
  match retry pause server.acquire connectPauses s with
  | (.ok _, s) => (.ok (), s)
  | (.error _, s) =>
    (.error (.failed ("Failed to connect to PostgreSQL after "
      ++ Numeral.text (connectPauses.length + 1) ++ " attempts")), s)

/-! ## Operations of a store -/

/-- Where the script that creates the tables is looked for. -/
def schemaPath : String := "schema/postgres.sql"

/-- Executes the statements of a script, each with its ends trimmed. -/
def runScript : List (List Char) → Session σ Unit
  | [] => return ()
  | statement :: rest => do
    let text := String.ofList (trim statement)
    let _ ← server.sendOr (.failed ("Failed to execute migration statement: " ++ text))
      (.run { text })
    runScript rest

/-- Creates the tables by a script, which may be missing. -/
def migrate (script : Option String) : Session σ Unit := do
  server.acquire
  match script with
  | some script => server.runScript (statements script.toList)
  | none => Session.fail (.failed ("Failed to read " ++ schemaPath))

def loadCheckpoint : Session σ (Option Nat) := server.queryOptional Sql.loadCheckpoint

/-- Raises the checkpoint, and gives the one that is then stored. -/
def seedCheckpoint (height : Nat) : Session σ Nat := do
  server.acquire
  let _ ← server.execute (raiseCheckpoint height)
  return (← server.loadCheckpoint).getD height

/-- Writes the rows of one table. No connection is needed to write nothing. -/
def insert (table : Table) (rows : List Json) : Session σ Nat :=
  match table.validate rows with
  | .error e => Session.fail (.refused e)
  | .ok [] => return 0
  | .ok rows => do
    server.acquire
    server.transact .statement (insertStatements table rows)
    return rows.length

/-- What a chunk is written by: the rows of its batches, then its checkpoint. -/
def chunkStatements (batches : List (Table × List Row)) (height : Nat) : List Statement :=
  batches.flatMap (fun (table, rows) => insertStatements table rows) ++ [raiseCheckpoint height]

/-- Writes a chunk together with its checkpoint. -/
def commit (w : ChunkWrite) : Session σ Unit :=
  match w.validatedBatches with
  | .error e => Session.fail (.refused e)
  | .ok batches => do
    server.acquire
    server.transact (.failed "Failed to commit chunk transaction")
      (chunkStatements batches w.newHeight)

def count (table : Table) : Session σ Nat := server.queryOne (countRows table)

/-- The server as the store of an indexer. -/
def backend (script : Option String) : Backend σ where
  name := "postgres"
  migrate := server.migrate script
  seedCheckpoint := server.seedCheckpoint
  loadCheckpoint := server.loadCheckpoint
  insert := server.insert
  commit := server.commit
  count := server.count
  pairInfos := server.query pairInfos
  latestPoolAmounts := server.query latestPoolAmounts
  volumes base quote interval start stop := server.query (volumes base quote interval start stop)
  candles pair interval start stop := server.query (candles pair interval start stop)
  overviews now := server.query (overviews now)
  stakedBy address start stop := server.query (stakedBy address start stop)
  earnedBy address start stop := server.query (earnedBy address start stop)

end Server
end PoolIndexer.Sql
