import PoolIndexer.Chain
import PoolIndexer.Keyed

/-!
The contracts of the exchange at a moment, and the chain that answers from them.
-/
namespace PoolIndexer

/-- What the contracts know of a liquidity token; what is absent fails when it is asked for. -/
structure StakingState where
  supply : Option Int := none
  bond : Option Int := none
  rewards : Option (List Asset) := none
  deriving DecidableEq, Repr, Inhabited

/-- The contracts that can be asked, by address, and the outages among them. -/
structure ChainState where
  pools : List (String × Pool) := []
  factories : List (String × List Pair) := []
  staking : List (String × StakingState) := []
  poolsDown : Bool := false
  /-- How many pools are answered at most. -/
  poolLimit : Option Nat := none
  factoriesDown : List String := []
  deriving DecidableEq, Repr, Inhabited

namespace ChainState

def setPool (s : ChainState) (address : String) : Option Pool → ChainState
  | some pool => { s with pools := Keyed.insert address pool s.pools }
  | none => { s with pools := s.pools.filter (·.1 != address) }

def setFactory (s : ChainState) (address : String) (pairs : List Pair) : ChainState :=
  { s with factories := Keyed.insert address pairs s.factories }

def setStaking (s : ChainState) (token : String) (state : StakingState) : ChainState :=
  { s with staking := Keyed.insert token state s.staking }

/-- A value, or the error of its absence. -/
def known {α : Type} (error : String) : Option α → Except String α
  | some a => .ok a
  | none => .error error

/-- The chain whose state is this at every height. -/
def chain (s : ChainState) : Chain where
  pools addresses _ :=
    if s.poolsDown then .error "connection refused"
    else
      let answers := addresses.map fun address => s.pools.lookup address
      .ok (answers.take (s.poolLimit.getD answers.length))
  factory address :=
    if s.factoriesDown.contains address then .error "factory down"
    else .ok ((s.factories.lookup address).getD [])
  supply token _ := known "no supply" ((s.staking.lookup token).bind (·.supply))
  bond token _ := known "no bond" ((s.staking.lookup token).bind (·.bond))
  rewards token _ := known "no rewards" ((s.staking.lookup token).bind (·.rewards))

end ChainState
end PoolIndexer
