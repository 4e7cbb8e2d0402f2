import PoolIndexer.Store.Error
import PoolIndexer.Store.Read

/-!
What a store can do, whatever it is made of.
-/
namespace PoolIndexer

/-- What is done with a store in a state `σ`: the result, and the state that is left, also after a
failure. -/
abbrev Action (σ α : Type) : Type := σ → Except StorageError α × σ

namespace Action

variable {σ α : Type}

/-- A look at the state. -/
def read (f : σ → Except StorageError α) : Action σ α := fun s => (f s, s)

/-- A change of the state, which stays as it is if the change fails. -/
def change (f : σ → Except StorageError (α × σ)) : Action σ α := fun s =>
  match f s with
  | .ok (a, s) => (.ok a, s)
  | .error e => (.error e, s)

end Action

structure Backend (σ : Type) where
  name : String
  /-- Creates the tables that are not there. -/
  migrate : Action σ Unit
  /-- Raises the checkpoint to a height, and gives the one that is then stored. -/
  seedCheckpoint : Nat → Action σ Nat
  loadCheckpoint : Action σ (Option Nat)
  /-- Writes the rows of one table, all or none, and gives their number. -/
  insert : Table → List Json → Action σ Nat
  /-- Writes a chunk together with its checkpoint, all or nothing. -/
  commit : ChunkWrite → Action σ Unit
  count : Table → Action σ Nat
  pairInfos : Action σ (List PairRow)
  latestPoolAmounts : Action σ (List PoolAmount)
  /-- The volume of two denominations by interval, within a start and a stop. -/
  volumes : String → String → Int → Int → Int → Action σ (List Volume)
  /-- The candles of a pair by interval, within a start and a stop. -/
  candles : String → Int → Int → Int → Action σ (List Candle)
  overviews : Int → Action σ (List PoolOverview)
  stakedBy : String → Int → Int → Action σ (List DenomTotal)
  earnedBy : String → Int → Int → Action σ (List DenomTotal)

end PoolIndexer
