/-!
Powers of two, which bound machine words and scale binary fractions, and powers of ten, which
scale decimals.
-/

namespace PoolIndexer

/-- Two to the power `n`. -/
def twoTo (n : Nat) : Nat := Nat.pow 2 n

/-- Ten to the power `n`. -/
def tenTo (n : Nat) : Nat := Nat.pow 10 n

theorem twoTo_add (m n : Nat) : twoTo (m + n) = twoTo m * twoTo n := Nat.pow_add 2 m n

theorem tenTo_add (m n : Nat) : tenTo (m + n) = tenTo m * tenTo n := Nat.pow_add 10 m n

theorem twoTo_pos (n : Nat) : 0 < twoTo n := Nat.pow_pos (Nat.zero_lt_two)

theorem tenTo_pos (n : Nat) : 0 < tenTo n := Nat.pow_pos (Nat.succ_pos 9)

end PoolIndexer
