import PoolIndexer.Binary64.Shortest

/-!
Keys of stored rows. A key is made of what a row says and of nothing else, so that a repeated
write meets the row of the first one.
-/
namespace PoolIndexer.RowKey

/-- Parts divided by hyphens. -/
def join (parts : List String) : String := "-".intercalate parts

/-- The key of a swap or a change of liquidity. -/
def operation (time : Int) (firstDenom : String) (firstAmount : Int) (secondDenom : String)
    (secondAmount : Int) : String :=
  join [Numeral.text time, firstDenom, Numeral.text firstAmount, secondDenom,
    Numeral.text secondAmount]

/-- The key of a pool's reserves at a time. -/
def poolAmount (time : Int) (pair : String) : String := join [Numeral.text time, pair]

/-- The key of a pool's yield at a time. -/
def poolApr (time : Int) (pair : String) (supply bond : Int) (rewards : String)
    (apr : Binary64) : String :=
  join [Numeral.text time, pair, Numeral.text supply, Numeral.text bond, rewards,
    String.ofList apr.plainText]

end PoolIndexer.RowKey
