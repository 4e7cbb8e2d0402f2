import PoolIndexer.Pair

/-!
The chain as the indexer sees it: what can be asked, and what is answered.
-/
namespace PoolIndexer

/-- A question to the chain. All but the listing of a factory concern a height. -/
inductive ChainQuery
  /-- The pools of pairs. -/
  | pools (addresses : List String) (height : Nat)
  /-- The pairs that a factory lists. -/
  | factory (address : String)
  /-- The supply of a liquidity token. -/
  | supply (token : String) (height : Nat)
  /-- How much of a liquidity token is bonded. -/
  | bond (token : String) (height : Nat)
  /-- The rewards per second for bonding a liquidity token. -/
  | rewards (token : String) (height : Nat)
  deriving DecidableEq, Repr

/-- The answers of a chain: a value, or the text of an error. Pools are answered by position, and
a pool that did not answer is absent. -/
structure Chain where
  pools : List String → Nat → Except String (List (Option Pool))
  factory : String → Except String (List Pair)
  supply : String → Nat → Except String Int
  bond : String → Nat → Except String Int
  rewards : String → Nat → Except String (List Asset)

end PoolIndexer
