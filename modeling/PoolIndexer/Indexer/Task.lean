import PoolIndexer.Chain
import PoolIndexer.Decimal
import PoolIndexer.Keyed
import PoolIndexer.Store.Backend

/-!
Steps of the indexer: computations that ask the chain and work on a store, and that may stop at a
fault. What was done before the fault stays done.
-/
namespace PoolIndexer

/-- Why a step stops. -/
inductive Fault
  /-- The chain or the store failed; the texts go from the outermost circumstance to the cause. -/
  | failed (texts : List String)
  | arithmetic (error : ArithmeticError)
  deriving DecidableEq, Repr

/-- What steps work on. -/
structure World (σ : Type) where
  store : σ
  /-- The registered pairs by address. -/
  registry : List (String × Pair) := []
  /-- The queries asked, in order. -/
  asked : List ChainQuery := []

/-- A step with a result of type `α`, over a store of type `σ`. -/
def Task (σ α : Type) : Type := World σ → Except Fault α × World σ

namespace Task

variable {σ α β : Type}

protected def pure (a : α) : Task σ α := fun w => (.ok a, w)

protected def bind (t : Task σ α) (next : α → Task σ β) : Task σ β := fun w =>
  match t w with
  | (.ok a, w) => next a w
  | (.error e, w) => (.error e, w)

instance : Monad (Task σ) where
  pure := Task.pure
  bind := Task.bind

/-- Asks the chain; the query is noted, whatever the answer. -/
def ask (query : ChainQuery) (answer : Except String α) : Task σ (Except String α) := fun w =>
  (.ok answer, { w with asked := w.asked ++ [query] })

/-- Goes on with an answer, or stops with its error under a circumstance. -/
def need (circumstance : List String) : Except String α → Task σ α
  | .ok a => Task.pure a
  | .error e => fun w => (.error (.failed (circumstance ++ [e])), w)

/-- Works on the store; an error stops the step under a circumstance. -/
def perform (circumstance : List String) (action : Action σ α) : Task σ α := fun w =>
  match action w.store with
  | (.ok a, store) => (.ok a, { w with store })
  | (.error e, store) => (.error (.failed (circumstance ++ [e.message])), { w with store })

/-- Goes on with the result of a computation. -/
def compute : Except ArithmeticError α → Task σ α
  | .ok a => Task.pure a
  | .error e => fun w => (.error (.arithmetic e), w)

/-- Changes the registered pairs. -/
def register (registry : List (String × Pair)) : Task σ Unit := fun w =>
  (.ok (), { w with registry })

def registered : Task σ (List (String × Pair)) := fun w => (.ok w.registry, w)

end Task
end PoolIndexer
