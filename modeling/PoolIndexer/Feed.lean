import PoolIndexer.Feed.Page
import PoolIndexer.Indexer

/-!
The feed: it follows the chain and delivers its transactions in chunks of blocks.

The feed is a machine. In every phase it has one demand on its surroundings, and the event that
answers the demand leads to the next phase. A chunk that is refused is delivered again unchanged,
after pauses that double; only an accepted one moves the feed on. The feed stops when the
processor halts, or when work is cancelled between deliveries.
-/
namespace PoolIndexer

structure FeedConfig where
  /-- Blocks in a chunk at most. -/
  chunkLimit : Nat
  /-- The pause after a poll without result, in milliseconds. -/
  pollInterval : Nat
  /-- The pause before the first redelivery, which doubles from then on. -/
  retryBase : Nat
  /-- The longest pause before a redelivery. -/
  retryMax : Nat
  deriving DecidableEq, Repr, Inhabited

/-- The pause before the `attempt`-th redelivery, counted from one: it doubles up to twenty times
and stays below a bound. -/
def redeliveryDelay (base max attempt : Nat) : Nat :=
  min (min (base * twoTo (min (attempt - 1) 20)) (twoTo 64 - 1)) max

namespace Feed

/-- Transactions on a full page. -/
def pageSize : Nat := 100

inductive Phase
  /-- Before a poll. -/
  | idle
  | polling
  /-- Fetching the transactions up to a height, page by page. -/
  | fetching (last page : Nat) (txs : List Tx)
  /-- Delivering a chunk that was refused a number of times. -/
  | delivering (chunk : Chunk) (refusals : Nat)
  /-- After a refusal. -/
  | refused (chunk : Chunk) (refusals : Nat)
  /-- Pausing before a chunk is delivered again, or else before the next poll. -/
  | pausing (time : Nat) (redelivery : Option (Chunk × Nat))
  | stopped
  deriving Repr, Inhabited

structure State where
  /-- The first height that is not yet accepted. -/
  offset : Nat
  phase : Phase := .idle
  deriving Repr, Inhabited

/-- What the feed needs next. -/
inductive Demand
  /-- Is work cancelled, or the processor halted? -/
  | mayPoll
  | latestHeight
  | page (first last number : Nat)
  | deliver (chunk : Chunk)
  /-- Is the processor halted? -/
  | mayRedeliver
  | pause (time : Nat)
  /-- Nothing any more. -/
  | nothing
  deriving Repr

/-- What happened in answer to a demand. -/
inductive Event
  /-- Work may go on, or has to stop. -/
  | permission (granted : Bool)
  /-- The latest height, or nothing if it could not be had. -/
  | latestHeight (height : Option Nat)
  | page (page : Option TxPage)
  | delivered (accepted : Bool)
  /-- The pause is over, or was cut short. -/
  | paused (cancelled : Bool)
  deriving Repr

def State.demand (s : State) : Demand :=
  match s.phase with
  | .idle => .mayPoll
  | .polling => .latestHeight
  | .fetching last page _ => .page s.offset last page
  | .delivering chunk _ => .deliver chunk
  | .refused _ _ => .mayRedeliver
  | .pausing time _ => .pause time
  | .stopped => .nothing

/-- The phase after a poll that led to nothing. -/
def waiting (config : FeedConfig) : Phase := .pausing config.pollInterval none

/-- Heights are unsigned 64-bit words. -/
def height (n : Nat) : Nat := n % twoTo 64

/-- The last height of the chunk that starts at an offset. -/
def lastHeight (config : FeedConfig) (offset latest : Nat) : Nat :=
  min (height (offset + max config.chunkLimit 1 - 1)) latest

/-- Whether a page is the last one: it is not full, or all transactions have come. -/
def isLastPage (page : TxPage) (received : Nat) : Bool :=
  decide (page.results.length < pageSize)
    || match page.total with
      | some total => decide (total ≤ received)
      | none => false

/-- The phase after a page. -/
def afterPage (config : FeedConfig) (last number : Nat) (txs : List Tx) :
    Option TxPage → Phase
  | none => waiting config
  | some page =>
    match page.txs with
    | .error _ => waiting config
    | .ok more =>
      let txs := txs ++ more
      if isLastPage page txs.length then .delivering ⟨txs, last⟩ 0
      else .fetching last (number + 1) txs

/-- The state after an event. One that answers no demand of the phase changes nothing. -/
def State.advance (config : FeedConfig) (s : State) (event : Event) : State :=
  match s.phase, event with
  | .idle, .permission granted => { s with phase := if granted then .polling else .stopped }
  | .polling, .latestHeight none => { s with phase := waiting config }
  | .polling, .latestHeight (some latest) =>
    if latest < s.offset then { s with phase := waiting config }
    else { s with phase := .fetching (lastHeight config s.offset latest) 1 [] }
  | .fetching last number txs, .page page =>
    { s with phase := afterPage config last number txs page }
  | .delivering chunk refusals, .delivered accepted =>
    if accepted then { offset := height (chunk.newHeight + 1), phase := .idle }
    else { s with phase := .refused chunk refusals }
  | .refused chunk refusals, .permission granted =>
    if granted then
      let delay := redeliveryDelay config.retryBase config.retryMax (refusals + 1)
      { s with phase := .pausing delay (some (chunk, refusals + 1)) }
    else { s with phase := .stopped }
  | .pausing _ redelivery, .paused cancelled =>
    if cancelled then { s with phase := .stopped }
    else match redelivery with
      | some (chunk, refusals) => { s with phase := .delivering chunk refusals }
      | none => { s with phase := .idle }
  | _, _ => s

/-- The state after a list of events. -/
def State.run (config : FeedConfig) (s : State) (events : List Event) : State :=
  events.foldl (State.advance config) s

end Feed
end PoolIndexer
