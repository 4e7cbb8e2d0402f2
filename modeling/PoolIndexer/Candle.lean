import PoolIndexer.Decimal.Binary
import PoolIndexer.Operation
import PoolIndexer.Pair
import PoolIndexer.RowKey
import PoolIndexer.Timestamp

/-!
Price candles of pairs: built from swaps minute by minute, and merged into wider ones when read.
-/
namespace PoolIndexer

/-- The prices of a pair over an interval, in quote units per base unit, and the base units
swapped. -/
structure Candle where
  key : String
  pair : String
  time : Int
  /-- The height of the first swap. -/
  height : Nat
  openPrice : Binary64
  high : Binary64
  low : Binary64
  close : Binary64
  volume : Int
  deriving DecidableEq, Repr, Inhabited

namespace Candle

def table : Table where
  name := "swap_ohlcv"
  columns := [⟨"unique_key", .text⟩, ⟨"pair", .text⟩, ⟨"timestamp", .bigint⟩,
    ⟨"txheight", .bigint⟩, ⟨"open", .double⟩, ⟨"high", .double⟩, ⟨"low", .double⟩,
    ⟨"close", .double⟩, ⟨"volume", .numeric⟩]
  mode := .append

def toJson (c : Candle) : Json := .obj
  [("unique_key", .str c.key), ("pair", .str c.pair), ("timestamp", .int c.time),
   ("txheight", .int c.height), ("open", realJson c.openPrice), ("high", realJson c.high),
   ("low", realJson c.low), ("close", realJson c.close), ("volume", amountJson c.volume)]

def ofDocument? (d : Document) : Option Candle :=
  match d.fields? (table.columns.map (·.name)) with
  | some [some key, some pair, some time, some height, some openPrice, some high, some low,
      some close, some volume] => do
    return {
      key := ← key.text?
      pair := ← pair.text?
      time := ← time.int64?
      height := ← height.word? 64
      openPrice := ← openPrice.real?
      high := ← high.real?
      low := ← low.real?
      close := ← close.real?
      volume := ← volume.amount? }
  | _ => none

instance : Record Candle := ⟨table, toJson, ofDocument?⟩

/-- The candle of a single swap. -/
def single (key pair : String) (time : Int) (height : Nat) (price : Binary64) (volume : Int) :
    Candle :=
  { key, pair, time, height, openPrice := price, high := price, low := price, close := price,
    volume }

/-- Extends a candle by a later one: it keeps what it opened with. -/
def extend (c later : Candle) : Candle :=
  { c with
    high := c.high.max later.high
    low := c.low.min later.low
    close := later.close
    volume := c.volume + later.volume }

/-- Puts a candle into a list: into the one of its pair and time, or after all others. -/
def add (later : Candle) : List Candle → List Candle
  | [] => [later]
  | c :: rest =>
    if c.pair = later.pair ∧ c.time = later.time then c.extend later :: rest
    else c :: add later rest

end Candle

/-- The candle that a swap makes on its own. There is none for an unknown pair, nor where no base
units change hands. -/
def Swap.candle? (pairs : List Pair) (op : Swap) : Option Candle :=
  (findByAddress pairs op.pairAddress).bind fun pair =>
    let (base, quote) :=
      if op.offerDenom = pair.base.denom then (op.offerAmount, op.returnAmount)
      else (op.returnAmount, op.offerAmount)
    if base = 0 then none
    else
      let time := Timestamp.bucket op.time Timestamp.candleInterval
      let key := RowKey.join [Numeral.text time, pair.name, Numeral.text op.height]
      some (.single key pair.name time op.height (Decimal.displayRatio quote base) base)

/-- The candles of swaps in order, one for each pair and minute. -/
def buildCandles (swaps : List Swap) (pairs : List Pair) : List Candle :=
  (swaps.filterMap (·.candle? pairs)).foldl (fun candles c => Candle.add c candles) []

namespace Candle

/-- The first candle comes before the second when read. -/
def notAfter (a b : Candle) : Bool :=
  decide (a.time < b.time ∨ (a.time = b.time ∧ a.height ≤ b.height))

/-- Puts a candle into the bucket it falls into. A bucket takes the height of its last candle. -/
def intoBucket (pair : String) (interval : Int) (buckets : List (Int × Candle)) (c : Candle) :
    List (Int × Candle) :=
  let time := Timestamp.bucket c.time interval
  Keyed.upsert time (fun
    | some bucket => { bucket.extend c with height := c.height }
    | none => { c with key := RowKey.join [Numeral.text time, pair], time }) buckets

/-- Candles of a pair within `[start, stop]`, merged into buckets of `interval` seconds. -/
def rebucket (candles : List Candle) (pair : String) (interval start stop : Int) : List Candle :=
  let chosen := candles.filter fun c =>
    c.pair == pair && decide (start ≤ c.time) && decide (c.time ≤ stop)
  ((chosen.mergeSort notAfter).foldl (intoBucket pair interval) []).map (·.2)

end Candle
end PoolIndexer
