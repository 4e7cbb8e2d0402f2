import PoolIndexer.Indexer

/-!
The queries for the yields of pairs as they run side by side: for a few pairs at a time one query
each is under way, whichever is answered first goes on, and results are given in the order of the
pairs. A pair that fails does not stop the others.
-/
namespace PoolIndexer

/-- How far the queries for the yield of a pair have come: one of them is under way, or the first
failure or the last answer has settled them. -/
inductive AprStage
  | supply
  | bond (supply : Int)
  | rewards (supply bond : Int)
  | settled (result : Except String AprInput)
  deriving Repr

namespace AprStage

def isSettled : AprStage → Bool
  | settled _ => true
  | _ => false

/-- The stage after the answer of a chain to the query that is under way. -/
def answered (chain : Chain) (height : Nat) (pair : Pair) : AprStage → AprStage
  | supply =>
    match chain.supply pair.liquidityToken height with
    | .ok total => .bond total
    | .error e => .settled (.error e)
  | bond total =>
    match chain.bond pair.liquidityToken height with
    | .ok bonded => .rewards total bonded
    | .error e => .settled (.error e)
  | rewards total bonded =>
    match chain.rewards pair.liquidityToken height with
    | .ok rewardsPerSecond =>
      .settled (.ok { pair, supply := total, bond := bonded, rewardsPerSecond })
    | .error e => .settled (.error e)
  | settled result => .settled result

end AprStage

/-- The queries of a list of pairs at some moment. -/
structure FanOut where
  /-- The pairs that nothing is asked about yet. -/
  waiting : List Pair
  /-- The pairs that have begun and whose results are not yet given, in their order. -/
  begun : List (Pair × AprStage) := []
  /-- The results that are given, with the addresses of their pairs. -/
  given : List (String × Except String AprInput) := []
  deriving Repr

namespace FanOut

inductive Action
  /-- The next pair begins. -/
  | start
  /-- The query that is under way for one of the pairs that have begun is answered. -/
  | answer (place : Nat)
  /-- The result of the first pair that has begun is given. -/
  | give
  deriving DecidableEq, Repr

/-- As many pairs may have begun at a time, at least one. -/
def window (concurrency : Nat) : Nat := max concurrency 1

/-- The state after an action, if it can be taken. Every pair has the answers of a chain of its
own. -/
def step (chains : Pair → Chain) (height concurrency : Nat) (f : FanOut) :
    Action → Option FanOut
  | .start =>
    match f.waiting with
    | [] => none
    | pair :: rest =>
      if f.begun.length < window concurrency then
        some { f with waiting := rest, begun := f.begun ++ [(pair, .supply)] }
      else none
  | .answer place =>
    match f.begun[place]? with
    | none => none
    | some (pair, stage) =>
      if stage.isSettled then none
      else
        let begun := f.begun.set place (pair, stage.answered (chains pair) height pair)
        some { f with begun }
  | .give =>
    match f.begun with
    | (pair, .settled result) :: rest =>
      some { f with begun := rest, given := f.given ++ [(pair.address, result)] }
    | _ => none

/-- The state after actions in a row. -/
def run (chains : Pair → Chain) (height concurrency : Nat) (f : FanOut) (actions : List Action) :
    Option FanOut :=
  actions.foldlM (step chains height concurrency) f

/-- All results are given. -/
def Finished (f : FanOut) : Prop := f.waiting = [] ∧ f.begun = []

instance (f : FanOut) : Decidable f.Finished := inferInstanceAs (Decidable (_ ∧ _))

end FanOut
end PoolIndexer
