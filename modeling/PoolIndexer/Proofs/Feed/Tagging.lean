import PoolIndexer.Proofs.Feed.Fetching
import PoolIndexer.Proofs.Numeral

/-! Two ways of telling which message emitted an event. A node gives every message a log of its own,
or it gives all events in one list and puts the position of its message behind the attributes of
each. Either way a message is given its own events and no others, and as nothing that is read off an
execution looks at the tag, the transaction is read alike. -/
namespace PoolIndexer

/-- The attribute that names the message of an event. -/
def tagKey : String := "msg_index"

/-! ## Executions without tags -/

/-- The attribute is no tag. -/
def Attribute.isOwn (a : Attribute) : Bool := a.key != tagKey

namespace Execution

/-- The execution without tags. -/
def untagged (e : Execution) : Execution := { e with attributes := e.attributes.filter (·.isOwn) }

/-- An execution ends where the next one opens, and tags open none. -/
theorem takeWhile_untagged (attributes : List Attribute) :
    (attributes.filter (·.isOwn)).takeWhile (·.key != contractKey) =
      (attributes.takeWhile (·.key != contractKey)).filter (·.isOwn) := by
  induction attributes with
  | nil => rfl
  | cons a rest ih =>
    by_cases opens : a.key = contractKey
    · have own : a.isOwn = true := by simp [Attribute.isOwn, opens, contractKey, tagKey]
      simp [own, opens]
    · by_cases own : a.isOwn = true
      · simp [own, opens, ih]
      · simp [own, opens, ih]

theorem split_untagged (attributes : List Attribute) :
    split (attributes.filter (·.isOwn)) = (split attributes).map untagged := by
  induction attributes with
  | nil => rfl
  | cons a rest ih =>
    by_cases opens : a.key = contractKey
    · have own : a.isOwn = true := by simp [Attribute.isOwn, opens, contractKey, tagKey]
      rw [List.filter_cons_of_pos own, split, if_pos opens, split, if_pos opens, List.map_cons, ih,
        takeWhile_untagged]
      rfl
    · rw [split, if_neg opens, ← ih]
      by_cases own : a.isOwn = true
      · rw [List.filter_cons_of_pos own, split, if_neg opens]
      · rw [List.filter_cons_of_neg own]

section

variable (e : Execution) {action key : String} (other : key ≠ tagKey)
include other

theorem get?_untagged : e.untagged.get? key = e.get? key := by
  unfold get? untagged
  rw [List.find?_filter]
  congr 2
  funext a
  by_cases here : a.key = key
  · simp [Attribute.isOwn, here, other]
  · simp [here]

theorem require_untagged : e.untagged.require action key = e.require action key := by
  simp only [require, get?_untagged e other]

theorem requireAmount_untagged :
    e.untagged.requireAmount action key = e.requireAmount action key := by
  simp only [requireAmount, require_untagged e other]

theorem optionalAmount_untagged : e.untagged.optionalAmount key = e.optionalAmount key := by
  simp only [optionalAmount, get?_untagged e other]

end

theorem stakingToken_untagged (e : Execution) (action : String) :
    e.untagged.stakingToken action = e.stakingToken action := by
  simp (disch := decide) only [stakingToken, get?_untagged]

end Execution

section

variable (ctx : TxContext) (e : Execution)

theorem Swap.ofExecution_untagged : Swap.ofExecution ctx e.untagged = Swap.ofExecution ctx e := by
  simp (disch := decide) only [ofExecution, Execution.require_untagged,
    Execution.requireAmount_untagged, Execution.optionalAmount_untagged]
  rfl

theorem LiquidityChange.ofExecution_untagged (kind : LiquidityKind) :
    LiquidityChange.ofExecution ctx kind e.untagged = LiquidityChange.ofExecution ctx kind e := by
  cases kind with
  | provide =>
    simp (disch := decide) only [ofExecution, LiquidityKind.attributes, Execution.require_untagged,
      Execution.requireAmount_untagged]
    rfl
  | withdraw =>
    simp (disch := decide) only [ofExecution, LiquidityKind.attributes, Execution.require_untagged,
      Execution.requireAmount_untagged]
    rfl

theorem Stake.ofExecution_untagged : Stake.ofExecution ctx e.untagged = Stake.ofExecution ctx e := by
  simp (disch := decide) only [ofExecution, Execution.require_untagged,
    Execution.requireAmount_untagged, Execution.stakingToken_untagged]

theorem Earning.ofExecution_untagged :
    Earning.ofExecution ctx e.untagged = Earning.ofExecution ctx e := by
  simp (disch := decide) only [ofExecution, Execution.require_untagged,
    Execution.stakingToken_untagged]

/-- What is read off an execution does not depend on its tags. -/
theorem Harvest.events_untagged (harvest : Harvest) :
    harvest.events ctx e.untagged = harvest.events ctx e := by
  have action : e.untagged.get? "action" = e.get? "action" := e.get?_untagged (by decide)
  simp only [Harvest.events, action, Swap.ofExecution_untagged,
    LiquidityChange.ofExecution_untagged, Stake.ofExecution_untagged, Earning.ofExecution_untagged]

end

/-! ## Tagged events -/

/-- The event with the position of its message behind its own attributes. -/
def TxEvent.tagged (e : TxEvent) (position : Nat) : TxEvent :=
  { e with attributes := e.attributes ++ [⟨tagKey, Numeral.text position⟩] }

def TxMessage.tagged (m : TxMessage) (position : Nat) : TxMessage :=
  { m with events := m.events.map (·.tagged position) }

/-- The transaction with the events of every message tagged. -/
def Tx.tagged (tx : Tx) : Tx :=
  { tx with messages := tx.messages.zipIdx.map fun (m, position) => m.tagged position }

theorem TxEvent.own_tagged (e : TxEvent) (position : Nat) :
    (e.tagged position).attributes.filter (·.isOwn) = e.attributes.filter (·.isOwn) := by
  simp [tagged, Attribute.isOwn]

theorem Execution.ofEvents_tagged (events : List TxEvent) (position : Nat) :
    (ofEvents (events.map (·.tagged position))).map untagged = (ofEvents events).map untagged := by
  have wasm : ((·.type == "wasm") ∘ fun e : TxEvent => e.tagged position) =
      fun e : TxEvent => e.type == "wasm" := rfl
  rw [ofEvents, ofEvents, ← split_untagged, ← split_untagged, List.filter_map, wasm,
    List.flatMap_map, List.filter_flatMap, List.filter_flatMap]
  simp only [TxEvent.own_tagged]

theorem Execution.mapM_tagged (harvest : Harvest) (ctx : TxContext) (events : List TxEvent)
    (position : Nat) : (ofEvents (events.map (·.tagged position))).mapM (harvest.events ctx) =
      (ofEvents events).mapM (harvest.events ctx) := by
  have each : ∀ es : List Execution,
      es.mapM (harvest.events ctx) = (es.map untagged).mapM (harvest.events ctx) := by
    intro es
    rw [List.mapM_map]
    simp only [Function.comp_def, Harvest.events_untagged]
  rw [each, ofEvents_tagged, ← each]

theorem TxMessage.parse_tagged (m : TxMessage) (position : Nat) (ctx : TxContext) :
    (m.tagged position).parse ctx = m.parse ctx := by
  simp only [parse, tagged, Execution.mapM_tagged]

namespace Tx

theorem parse_tagged (tx : Tx) : tx.tagged.parse = tx.parse := by
  have messages : (tx.tagged.messages.filter (·.typeUrl == executeTypeUrl)) =
      ((tx.messages.zipIdx.filter fun m => m.1.typeUrl == executeTypeUrl).map
        fun (m, position) => m.tagged position) := List.filter_map
  have positions : tx.messages.filter (·.typeUrl == executeTypeUrl) =
      (tx.messages.zipIdx.filter fun m => m.1.typeUrl == executeTypeUrl).map (·.1) := by
    conv => lhs; rw [← List.zipIdx_map_fst 0 tx.messages]
    exact List.filter_map
  unfold parse
  rw [messages, positions]
  simp only [List.mapM_map, Function.comp_def, TxMessage.parse_tagged]
  rfl

theorem events_tagged (tx : Tx) : tx.tagged.events = tx.events := by
  unfold events
  rw [parse_tagged]
  rfl

end Tx

/-! ## What messages are given -/

/-- The message at each position has the events assigned to it if it executes a contract, and none
otherwise. -/
def Tx.Assigned (assigned : Nat → List TxEvent) (messages : List Json) (tx : Tx) : Prop :=
  ∀ i : Nat, (tx.messages[i]?).map (·.events) = (messages[i]?).map fun message =>
    if typeUrlOf message = executeTypeUrl then assigned i else []

/-- Only the positions of messages matter. -/
theorem Tx.Assigned.congr {assigned assigned' : Nat → List TxEvent} {messages : List Json} {tx : Tx}
    (holds : tx.Assigned assigned messages)
    (agree : ∀ i < messages.length, assigned i = assigned' i) : tx.Assigned assigned' messages := by
  intro i
  rw [holds i]
  by_cases below : i < messages.length
  · rw [agree i below]
  · rw [List.getElem?_eq_none (Nat.le_of_not_lt below)]
    rfl

namespace TxResult

variable {r : TxResult} {messages : List Json}

theorem message?_events {message : Json} {i : Nat} {m : TxMessage}
    (read : r.message? message i = some m) :
    m.events = if typeUrlOf message = executeTypeUrl then r.eventsOf i else [] := by
  unfold message? at read
  by_cases executes : typeUrlOf message = executeTypeUrl
  · rw [if_pos executes] at read ⊢
    obtain ⟨parts, -, rfl⟩ := Option.map_eq_some_iff.mp read
    rfl
  · rw [if_neg executes] at read ⊢
    cases read
    rfl

theorem mapM_message?_events {k : Nat} {read : List TxMessage}
    (mapped : (messages.zipIdx k).mapM (fun (message, i) => r.message? message i) = some read)
    (i : Nat) : (read[i]?).map (·.events) = (messages[i]?).map fun message =>
      if typeUrlOf message = executeTypeUrl then r.eventsOf (k + i) else [] := by
  induction messages generalizing k read i with
  | nil =>
    cases mapped
    rfl
  | cons message rest ih =>
    rw [List.zipIdx_cons, List.mapM_cons] at mapped
    obtain ⟨m, first, mapping⟩ := Option.bind_eq_some_iff.mp mapped
    obtain ⟨others, mappedRest, same⟩ := Option.bind_eq_some_iff.mp mapping
    cases same
    cases i with
    | zero => simp [message?_events first]
    | succ i => simpa [Nat.add_right_comm, Nat.add_assoc] using ih mappedRest i

/-- A message is given the events that its result has for its position. -/
theorem tx?_assigned {tx : Tx} (read : r.tx? messages = some tx) :
    tx.Assigned r.eventsOf messages := by
  obtain ⟨height, -, reading⟩ := Option.bind_eq_some_iff.mp read
  obtain ⟨ms, mapped, same⟩ := Option.bind_eq_some_iff.mp reading
  cases same
  intro i
  simpa using mapM_message?_events mapped i

theorem message?_tagged {r' : TxResult} {i : Nat}
    (tagged : r'.eventsOf i = (r.eventsOf i).map (·.tagged i)) (message : Json) :
    r'.message? message i = (r.message? message i).map (·.tagged i) := by
  unfold message?
  by_cases executes : typeUrlOf message = executeTypeUrl
  · rw [if_pos executes, if_pos executes, Option.map_map, tagged]
    rfl
  · rw [if_neg executes, if_neg executes]
    rfl

theorem mapM_message?_tagged {r' : TxResult} {k : Nat}
    (tagged : ∀ i < k + messages.length, r'.eventsOf i = (r.eventsOf i).map (·.tagged i)) :
    (messages.zipIdx k).mapM (fun (message, i) => r'.message? message i) =
      ((messages.zipIdx k).mapM fun (message, i) => r.message? message i).map
        fun read => (List.zipIdx read k).map fun (m, i) => TxMessage.tagged m i := by
  induction messages generalizing k with
  | nil => rfl
  | cons message rest ih =>
    have here := message?_tagged (tagged k (by simp)) message
    have others := ih (k := k + 1) fun i below => tagged i (by rw [List.length_cons]; omega)
    rw [List.zipIdx_cons, List.mapM_cons, List.mapM_cons, others]
    dsimp only
    rw [here]
    cases r.message? message k with
    | none => rfl
    | some m =>
      cases (rest.zipIdx (k + 1)).mapM fun (message, i) => r.message? message i with
      | none => rfl
      | some read => rfl

/-- Where every message is given the same events with its tag, so is the transaction. -/
theorem tx?_tagged {logs : List MessageLog} {events : List TxEvent}
    (tagged : ∀ i < messages.length,
      { r with logs, events }.eventsOf i = (r.eventsOf i).map (·.tagged i)) :
    { r with logs, events }.tx? messages = (r.tx? messages).map Tx.tagged := by
  have mapped := mapM_message?_tagged (k := 0) (by simpa using tagged)
  unfold tx?
  dsimp only
  rw [mapped]
  cases Numeral.word64? r.height.toList with
  | none => rfl
  | some height =>
    cases messages.zipIdx.mapM fun (message, i) => r.message? message i with
    | none => rfl
    | some read => rfl

end TxResult

/-- Only the events of an entry count for what is read from a listing. -/
theorem Feed.parseAll_exchange {entry entry' : Feed.Entry}
    (alike : entry'.tx?.map Tx.events = entry.tx?.map Tx.events) (before after : List Feed.Entry) :
    Tx.parseAll ((before ++ entry' :: after).filterMap Entry.tx?) =
      Tx.parseAll ((before ++ entry :: after).filterMap Entry.tx?) := by
  have events : ∀ entry : Feed.Entry, ((entry :: after).filterMap Entry.tx?).flatMap Tx.events =
      (entry.tx?.map Tx.events).getD [] ++ (after.filterMap Entry.tx?).flatMap Tx.events := by
    intro entry
    cases read : entry.tx? with
    | none => simp [read]
    | some tx => simp [read]
  unfold Tx.parseAll
  rw [List.filterMap_append, List.filterMap_append, List.flatMap_append, List.flatMap_append,
    events, events, alike]

/-! ## Events told in either way -/

/-- An event, and the position of the message that emitted it. -/
structure Emission where
  position : Nat
  event : TxEvent
  deriving DecidableEq, Repr

namespace Emission

/-- The events that a message emitted, in order. -/
def eventsAt (emissions : List Emission) (i : Nat) : List TxEvent :=
  (emissions.filter (·.position == i)).map (·.event)

/-- The log of a message. -/
def logAt (emissions : List Emission) (i : Nat) : MessageLog := ⟨i, eventsAt emissions i⟩

def tagged (e : Emission) : TxEvent := e.event.tagged e.position

/-- The event has no tag yet. -/
def Untagged (e : Emission) : Prop := ∀ a ∈ e.event.attributes, a.key ≠ tagKey

end Emission

/-- Two results of one transaction with a number of messages. The older node tells of the events in
one log for each message, the newer one in one list, in which each event is tagged. -/
structure Retold (emissions : List Emission) (count : Nat) (older newer : TxResult) : Prop where
  logs : older.logs.Perm ((List.range count).map (Emission.logAt emissions))
  tags : newer = { older with logs := [], events := emissions.map Emission.tagged }

namespace Retold

variable {emissions : List Emission} {count : Nat} {older newer : TxResult}

theorem eventsOf_older (retold : Retold emissions count older newer) {i : Nat} (below : i < count) :
    older.eventsOf i = Emission.eventsAt emissions i := by
  have member : Emission.logAt emissions i ∈ older.logs :=
    retold.logs.mem_iff.mpr (List.mem_map.mpr ⟨i, List.mem_range.mpr below, rfl⟩)
  have there : older.logs.isEmpty = false := by
    rw [List.isEmpty_eq_false_iff]
    exact List.ne_nil_of_mem member
  cases found : older.logs.find? (·.index == i) with
  | none => simpa [Emission.logAt] using List.find?_eq_none.mp found _ member
  | some log =>
    -- the log that is found is one of those listed, and only one has this position
    have among := retold.logs.mem_iff.mp (List.mem_of_find?_eq_some found)
    obtain ⟨j, -, rfl⟩ := List.mem_map.mp among
    have same : j = i := by simpa [Emission.logAt] using List.find?_some found
    simp [TxResult.eventsOf, there, found, Emission.logAt, same]

/-- The tag that is looked for is the one that was put there. -/
theorem any_tagged {e : Emission} (untagged : e.Untagged) (i : Nat) :
    (e.tagged.attributes.any fun a => a.key == "msg_index" && a.value == Numeral.text i) =
      (e.position == i) := by
  have own : (e.event.attributes.any
      fun a => a.key == "msg_index" && a.value == Numeral.text i) = false := by
    rw [List.any_eq_false]
    intro a member
    have other : a.key ≠ "msg_index" := untagged a member
    simp [other]
  have position : Numeral.text e.position = Numeral.text i ↔ e.position = i := by
    constructor
    · exact fun same => Int.ofNat_inj.mp (Numeral.text_inj same)
    · exact fun same => congrArg (fun n : Nat => Numeral.text n) same
  have tag : (Numeral.text e.position == Numeral.text i) = (e.position == i) := by
    rw [Bool.eq_iff_iff, beq_iff_eq, beq_iff_eq, position]
  simp [Emission.tagged, TxEvent.tagged, own, tagKey, tag]

theorem eventsOf_newer (retold : Retold emissions count older newer)
    (untagged : ∀ e ∈ emissions, e.Untagged) (i : Nat) :
    newer.eventsOf i = (Emission.eventsAt emissions i).map (·.tagged i) := by
  have chosen : (emissions.map Emission.tagged).filter (fun event => event.attributes.any
      fun a => a.key == "msg_index" && a.value == Numeral.text i) =
        (emissions.filter (·.position == i)).map Emission.tagged := by
    rw [List.filter_map]
    congr 1
    exact List.filter_congr fun e member => any_tagged (untagged e member) i
  rw [retold.tags, TxResult.eventsOf, if_pos List.isEmpty_nil, chosen, Emission.eventsAt,
    List.map_map]
  refine List.map_congr_left fun e member => ?_
  have here : e.position = i := by simpa using (List.mem_filter.mp member).2
  simp [Emission.tagged, here]

/-- The two results give the same transaction, up to the tags, or none. The transaction is read
alike, on its own and among others; and a message that executes a contract is given the events that
it emitted, in their order and no others, wherever it stands among messages of other types. -/
theorem read_alike {messages : List Json} (untagged : ∀ e ∈ emissions, e.Untagged)
    (retold : Retold emissions messages.length older newer) :
    newer.tx? messages = (older.tx? messages).map Tx.tagged ∧
    (∀ tx tx', older.tx? messages = some tx → newer.tx? messages = some tx' →
      tx'.parse = tx.parse ∧
        tx.Assigned (Emission.eventsAt emissions) messages ∧
        tx'.Assigned (fun i => (Emission.eventsAt emissions i).map (·.tagged i)) messages) ∧
    ∀ before after : List Feed.Entry,
      Tx.parseAll ((before ++ (newer, messages) :: after).filterMap Feed.Entry.tx?) =
        Tx.parseAll ((before ++ (older, messages) :: after).filterMap Feed.Entry.tx?) := by
  have events : ∀ i < messages.length,
      newer.eventsOf i = (older.eventsOf i).map (·.tagged i) := by
    intro i below
    rw [retold.eventsOf_newer untagged, retold.eventsOf_older below]
  have same : newer.tx? messages = (older.tx? messages).map Tx.tagged := by
    rw [retold.tags] at events ⊢
    exact TxResult.tx?_tagged events
  refine ⟨same, fun tx tx' read read' => ⟨?_, ?_, ?_⟩, fun before after => ?_⟩
  · rw [read, Option.map_some] at same
    rw [Option.some.inj (read'.symm.trans same), Tx.parse_tagged]
  · exact (TxResult.tx?_assigned read).congr fun i below => retold.eventsOf_older below
  · exact (TxResult.tx?_assigned read').congr fun i _ => retold.eventsOf_newer untagged i
  · refine Feed.parseAll_exchange ?_ before after
    simp only [Feed.Entry.tx?, same, Option.map_map, Function.comp_def, Tx.events_tagged]

/-! Two swaps by different senders with a transfer of coins in between, their events mixed, and the
logs in another order than the messages. -/

def swapMessage (sender : String) : Json := .obj
  [("@type", .str executeTypeUrl), ("sender", .str sender),
   ("msg", .obj [("execute_swap_operations", .obj [("operations", .arr [])])])]

def swapAttributes (paid : String) : List Attribute :=
  [⟨contractKey, "pair"⟩, ⟨"action", "swap"⟩, ⟨"offer_asset", "orai"⟩, ⟨"ask_asset", "usdt"⟩,
    ⟨"offer_amount", "10"⟩, ⟨"return_amount", paid⟩]

def mixedMessages : List Json :=
  [swapMessage "alice", .obj [("@type", .str "/cosmos.bank.v1beta1.MsgSend")], swapMessage "bob"]

/-- Bob's swap comes in two pieces. -/
def mixedEmissions : List Emission :=
  [⟨2, "wasm", (swapAttributes "18").take 3⟩, ⟨0, "wasm", swapAttributes "19"⟩,
    ⟨1, "transfer", [⟨"amount", "5orai"⟩]⟩, ⟨2, "wasm", (swapAttributes "18").drop 3⟩]

def toldByLogs : TxResult where
  height := "150"
  hash := "A"
  timestamp := "2023-07-12T15:13:01Z"
  logs := ([2, 0, 1].map (Emission.logAt mixedEmissions))

def toldByTags : TxResult :=
  { toldByLogs with logs := [], events := mixedEmissions.map Emission.tagged }

theorem mixed_retold : Retold mixedEmissions mixedMessages.length toldByLogs toldByTags where
  logs := by
    have positions : [2, 0, 1].Perm (List.range mixedMessages.length) := by decide
    exact positions.map _
  tags := rfl

theorem read_alike_mixed :
    (∀ e ∈ mixedEmissions, e.Untagged) ∧
      Retold mixedEmissions mixedMessages.length toldByLogs toldByTags ∧
      ∃ tx tx', toldByLogs.tx? mixedMessages = some tx ∧
        toldByTags.tx? mixedMessages = some tx' ∧
        tx'.messages.map (·.events) = [[⟨"wasm", swapAttributes "19" ++ [⟨tagKey, "0"⟩]⟩], [],
          [⟨"wasm", (swapAttributes "18").take 3 ++ [⟨tagKey, "2"⟩]⟩,
            ⟨"wasm", (swapAttributes "18").drop 3 ++ [⟨tagKey, "2"⟩]⟩]] ∧
        tx'.parse = tx.parse ∧
        tx'.events.filterMap (fun event => event.swap?.map fun op => (op.sender, op.returnAmount)) =
          [("alice", 19), ("bob", 18)] := by
  have untagged : ∀ e ∈ mixedEmissions, e.Untagged := by
    unfold Emission.Untagged
    decide
  obtain ⟨-, alike, -⟩ := read_alike untagged mixed_retold
  obtain ⟨tx, read⟩ := Option.isSome_iff_exists.mp
    (show (toldByLogs.tx? mixedMessages).isSome by decide +kernel)
  obtain ⟨tx', read'⟩ := Option.isSome_iff_exists.mp
    (show (toldByTags.tx? mixedMessages).isSome by decide +kernel)
  have given : (toldByTags.tx? mixedMessages).map (fun tx => tx.messages.map (·.events)) =
      some [[⟨"wasm", swapAttributes "19" ++ [⟨tagKey, "0"⟩]⟩], [],
        [⟨"wasm", (swapAttributes "18").take 3 ++ [⟨tagKey, "2"⟩]⟩,
          ⟨"wasm", (swapAttributes "18").drop 3 ++ [⟨tagKey, "2"⟩]⟩]] := by decide +kernel
  have swaps : (toldByTags.tx? mixedMessages).map (fun tx => tx.events.filterMap
      fun event => event.swap?.map fun op => (op.sender, op.returnAmount)) =
        some [("alice", 19), ("bob", 18)] := by decide +kernel
  rw [read', Option.map_some] at given swaps
  exact ⟨untagged, mixed_retold, tx, tx', read, read', Option.some.inj given,
    (alike tx tx' read read').1, Option.some.inj swaps⟩

end Retold
end PoolIndexer
