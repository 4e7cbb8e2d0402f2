import PoolIndexer.Proofs.Transaction.Reading

/-! The layout of a message's events does not matter. The executions of a message are found again
however its `wasm` events cut their attributes, so that a transaction is read alike in every layout,
and each execution is read by itself. -/
namespace PoolIndexer

/-! ## Layouts -/

/-- Events carry attributes: those of the `wasm` events are put together of them in order, cut at
any places, and events of other types may stand between. -/
inductive Carry : List TxEvent → List Attribute → Prop
  | nothing : Carry [] []
  | piece {event : TxEvent} {events : List TxEvent} {attributes : List Attribute}
      (wasm : event.type = "wasm") (rest : Carry events attributes) :
      Carry (event :: events) (event.attributes ++ attributes)
  | other {event : TxEvent} {events : List TxEvent} {attributes : List Attribute}
      (foreign : event.type ≠ "wasm") (rest : Carry events attributes) :
      Carry (event :: events) attributes

namespace Carry

theorem iff_eq {events : List TxEvent} {attributes : List Attribute} : Carry events attributes ↔
    (events.filter (·.type == "wasm")).flatMap (·.attributes) = attributes := by
  constructor
  · intro carry
    induction carry with
    | nothing => rfl
    | piece wasm _ ih => simp [wasm, ih]
    | other foreign _ ih => simp [foreign, ih]
  · rintro rfl
    induction events with
    | nil => exact .nothing
    | cons event rest ih =>
      by_cases wasm : event.type = "wasm"
      · simpa [wasm] using ih.piece wasm
      · simpa [wasm] using ih.other wasm

/-- One event for each piece of the attributes. -/
theorem pieces (pieces : List (List Attribute)) :
    Carry (pieces.map (⟨"wasm", ·⟩)) pieces.flatten := by
  induction pieces with
  | nil => exact .nothing
  | cons piece rest ih => exact .piece rfl ih

end Carry

namespace Execution

variable {es : List Execution} {events : List TxEvent}

/-- The attributes that the execution emits, the one that opens it before its own. -/
def flat (e : Execution) : List Attribute := ⟨contractKey, e.contract⟩ :: e.attributes

/-- None of its own attributes opens an execution. -/
def Closed (e : Execution) : Prop := ∀ a ∈ e.attributes, a.key ≠ contractKey

/-- One event for each execution. -/
theorem carry_each (es : List Execution) :
    Carry (es.map fun e => ⟨"wasm", e.flat⟩) (es.flatMap flat) := by
  have laid := Carry.pieces (es.map flat)
  rw [List.map_map] at laid
  exact laid

/-- One event for all executions. -/
theorem carry_all (es : List Execution) : Carry [⟨"wasm", es.flatMap flat⟩] (es.flatMap flat) := by
  simpa using Carry.pieces [es.flatMap flat]

theorem split_append {own : List Attribute} (closed : ∀ a ∈ own, a.key ≠ contractKey)
    (rest : List Attribute) : split (own ++ rest) = split rest := by
  induction own with
  | nil => rfl
  | cons a own ih =>
    obtain ⟨first, others⟩ := List.forall_mem_cons.mp closed
    rw [List.cons_append, split, if_neg first, ih others]

/-- What comes behind an execution starts with the attribute that opens the next one. -/
theorem takeWhile_flatMap (es : List Execution) :
    (es.flatMap flat).takeWhile (·.key != contractKey) = [] := by
  cases es with
  | nil => rfl
  | cons e rest => simp [flat]

theorem split_flatMap (closed : ∀ e ∈ es, e.Closed) : split (es.flatMap flat) = es := by
  induction es with
  | nil => rfl
  | cons e rest ih =>
    obtain ⟨first, others⟩ := List.forall_mem_cons.mp closed
    -- the attributes of the first execution end where the next one opens
    have own : (e.attributes ++ rest.flatMap flat).takeWhile (·.key != contractKey) =
        e.attributes := by
      rw [List.takeWhile_append_of_pos fun a member => bne_iff_ne.mpr (first a member),
        takeWhile_flatMap, List.append_nil]
    rw [List.flatMap_cons, flat, List.cons_append, split, if_pos rfl, own, split_append first,
      ih others]

/-- The executions of a message are found again in any layout of its events. -/
theorem ofEvents_carry (closed : ∀ e ∈ es, e.Closed) (carry : Carry events (es.flatMap flat)) :
    ofEvents events = es := by
  rw [ofEvents, Carry.iff_eq.mp carry, split_flatMap closed]

end Execution

/-! ## Messages -/

/-- The hook asks for what a harvest counts. -/
inductive Hook.Asks : Hook → Harvest → Prop
  | swap (belief spread recipient : Option String) : Asks (.swap belief spread recipient) .swaps
  | route (route : Route) : Asks (.route route) .swaps
  | withdrawLiquidity : Asks .withdrawLiquidity .withdrawals
  | bond : Asks .bond .bonds
  | unrecognized : Asks .unrecognized .nothing

/-- The message asks for what a harvest counts, by itself or by the hook that it sends. -/
inductive Message.Asks : Message → Harvest → Prop
  | swap (offer : Asset) : Asks (.swap offer) .swaps
  | route (route : Route) : Asks (.route route) .swaps
  | provideLiquidity (assets : List Asset) : Asks (.provideLiquidity assets) .provides
  | send {contract amount text : String} {hook : Hook} {harvest : Harvest}
      (decoded : Hook.decode text = .ok hook) (asks : hook.Asks harvest) :
      Asks (.send contract amount text) harvest
  | bond : Asks .bond .bonds
  | unbond : Asks .unbond .nothing
  | withdrawReward : Asks .withdrawReward .rewards
  | unrecognized : Asks .unrecognized .nothing

theorem Harvest.ofHook_of_asks {hook : Hook} {harvest : Harvest} (asks : hook.Asks harvest) :
    ofHook hook = harvest := by
  cases asks <;> rfl

theorem Harvest.ofMessage_of_asks {message : Message} {harvest : Harvest}
    (asks : message.Asks harvest) : ofMessage message = .ok harvest := by
  cases asks with
  | send decoded asks => rw [ofMessage, decoded, ← ofHook_of_asks asks]; rfl
  | swap | route | provideLiquidity | bond | unbond | withdrawReward | unrecognized => rfl

namespace TxMessage

/-- The message with other events. -/
def emitting (m : TxMessage) (events : List TxEvent) : TxMessage := { m with events }

variable {ctx : TxContext} {m : TxMessage} {es : List Execution} {events events' : List TxEvent}
  (closed : ∀ e ∈ es, e.Closed) (carry : Carry events (es.flatMap Execution.flat))
include closed carry

theorem parse_relaid (carry' : Carry events' (es.flatMap Execution.flat)) :
    (m.emitting events).parse ctx = (m.emitting events').parse ctx := by
  simp only [parse, emitting, Execution.ofEvents_carry closed carry,
    Execution.ofEvents_carry closed carry']

variable {message : Message} {harvest : Harvest} (decoded : Message.decode m.body = .ok message)
  (asks : message.Asks harvest)
include decoded asks

theorem parse_emitting : (m.emitting events).parse ctx =
    do return (← es.mapM (harvest.events ctx)).flatten := by
  simp only [parse, emitting, Execution.ofEvents_carry closed carry, decoded]
  change (Harvest.ofMessage message >>= _) = _
  rw [Harvest.ofMessage_of_asks asks]
  rfl

/-- The events of a message are those of its executions whose action counts, each read by itself. -/
theorem parse_emitting_ok {result : List Event} :
    (m.emitting events).parse ctx = .ok result ↔
      ∃ groups, List.Forall₂ (harvest.Reads ctx) (es.filter harvest.counts) groups ∧
        result = groups.flatten := by
  rw [parse_emitting closed carry decoded asks]
  exact Result.flatten_mapM_ok (fun _ other => Harvest.events_of_not_counts other)
    fun _ counted _ => Harvest.events_of_counts counted

/-- A message can be read if all executions whose action counts are complete, and only then. -/
theorem exists_parse_emitting :
    (∃ result, (m.emitting events).parse ctx = .ok result) ↔
      ∀ e ∈ es, harvest.counts e → harvest.Complete e := by
  rw [parse_emitting closed carry decoded asks,
    Result.exists_flatten_mapM fun _ other => Harvest.events_of_not_counts other]
  exact forall₂_congr fun _ _ => forall_congr' Harvest.exists_events

end TxMessage

/-! ## Transactions -/

namespace Tx

/-- The transaction with other messages. -/
def sending (tx : Tx) (messages : List TxMessage) : Tx := { tx with messages }

variable {tx : Tx} {m : TxMessage} {es : List Execution} {events : List TxEvent}

/-- The messages of a transaction are read one after the other. -/
theorem parse_append (tx : Tx) (xs ys : List TxMessage) :
    (tx.sending (xs ++ ys)).parse = do
      return (← (tx.sending xs).parse) ++ (← (tx.sending ys).parse) := by
  unfold parse sending
  cases Timestamp.parse? tx.timestamp with
  | none => rfl
  | some time => simp

theorem parse_around (tx : Tx) (before after : List TxMessage) (m : TxMessage) :
    (tx.sending (before ++ m :: after)).parse = do
      let first ← (tx.sending before).parse
      return first ++ ((← (tx.sending [m]).parse) ++ (← (tx.sending after).parse)) := by
  rw [parse_append, ← List.singleton_append, parse_append]
  simp

theorem parse_message {time : Int} (timed : Timestamp.parse? tx.timestamp = some time)
    (executes : m.typeUrl = executeTypeUrl) :
    (tx.sending [m]).parse = m.parse ⟨tx.hash, tx.height, time, m.sender⟩ := by
  simp [parse, sending, timed, executes]

section

variable (closed : ∀ e ∈ es, e.Closed) (carry : Carry events (es.flatMap Execution.flat))
include closed carry

theorem parse_relaid {events' : List TxEvent} (carry' : Carry events' (es.flatMap Execution.flat))
    (tx : Tx) (m : TxMessage) :
    (tx.sending [m.emitting events]).parse = (tx.sending [m.emitting events']).parse := by
  have alike : ∀ ctx, (m.emitting events).parse ctx = (m.emitting events').parse ctx :=
    fun _ => TxMessage.parse_relaid closed carry carry'
  unfold parse sending
  cases Timestamp.parse? tx.timestamp with
  | none => rfl
  | some time =>
    by_cases executes : m.typeUrl = executeTypeUrl
    · simpa [TxMessage.emitting, executes] using alike ⟨tx.hash, tx.height, time, m.sender⟩
    · -- a message of another type is not looked at in any layout
      simp [TxMessage.emitting, executes]

/-- A transaction is read alike in every layout of a message's events. Where the message asks for
something, there come the events of those of its executions whose first action is the one asked for,
in their order and each read by itself, in between those of the other messages; and there are none
at all if one of these executions lacks an attribute or has an amount that cannot be read. -/
theorem parse_laid_out (tx : Tx) (before after : List TxMessage) (m : TxMessage) :
    (∀ events', Carry events' (es.flatMap Execution.flat) →
      (tx.sending (before ++ m.emitting events' :: after)).parse =
        (tx.sending (before ++ m.emitting events :: after)).parse) ∧
    ∀ time message harvest, Timestamp.parse? tx.timestamp = some time →
      m.typeUrl = executeTypeUrl → Message.decode m.body = .ok message → message.Asks harvest →
      (∀ result, (tx.sending (before ++ m.emitting events :: after)).parse = .ok result ↔
        ∃ first groups last, (tx.sending before).parse = .ok first ∧
          List.Forall₂ (harvest.Reads ⟨tx.hash, tx.height, time, m.sender⟩)
            (es.filter harvest.counts) groups ∧
          (tx.sending after).parse = .ok last ∧ result = first ++ (groups.flatten ++ last)) ∧
      ((∃ result, (tx.sending (before ++ m.emitting events :: after)).parse = .ok result) ↔
        (∃ first, (tx.sending before).parse = .ok first) ∧
          (∀ e ∈ es, harvest.counts e → harvest.Complete e) ∧
          ∃ last, (tx.sending after).parse = .ok last) := by
  refine ⟨fun events' carry' => ?_, fun time message harvest timed executes decoded asks => ?_⟩
  · rw [parse_around, parse_around, parse_relaid closed carry carry']
  · have here : (tx.sending [m.emitting events]).parse =
        (m.emitting events).parse ⟨tx.hash, tx.height, time, m.sender⟩ :=
      parse_message timed executes
    rw [parse_around, here]
    constructor
    · intro result
      simp only [Result.bind_ok, TxMessage.parse_emitting_ok closed carry decoded asks]
      constructor
      · rintro ⟨first, earlier, _, ⟨groups, reads, rfl⟩, last, later, same⟩
        exact ⟨first, groups, last, earlier, reads, later, (Except.ok.inj same).symm⟩
      · rintro ⟨first, groups, last, earlier, reads, later, same⟩
        exact ⟨first, earlier, _, ⟨groups, reads, rfl⟩, last, later, congrArg Except.ok same.symm⟩
    · simp only [Result.exists_bind_ok, Result.exists_pure_ok, and_true, exists_and_right,
        TxMessage.exists_parse_emitting closed carry decoded asks]

end

/-! A route of two hops with a transfer in between, laid out as one event for each execution, and
cut elsewhere around an event of another type. -/

def hop (contract offer ask offered returned : String) : Execution :=
  ⟨contract, [⟨"action", "swap"⟩, ⟨"offer_asset", offer⟩, ⟨"ask_asset", ask⟩,
    ⟨"offer_amount", offered⟩, ⟨"return_amount", returned⟩]⟩

def twoHops : List Execution :=
  [hop "first" "orai" "usdt" "10" "19", ⟨"usdt", [⟨"action", "transfer"⟩, ⟨"amount", "19"⟩]⟩,
    hop "second" "usdt" "atom" "19" "3"]

def hopsMessage : TxMessage where
  typeUrl := executeTypeUrl
  sender := "alice"
  body := .obj [("execute_swap_operations", .obj [("operations", .arr [])])]

def hopsTx : Tx where
  hash := "A"
  height := 150
  timestamp := "2023-07-12T15:13:01Z"
  code := 0
  messages := []

/-- The second cut is in the middle of an execution. -/
def hopsCut : List TxEvent :=
  [⟨"wasm", (twoHops.flatMap Execution.flat).take 6⟩, ⟨"message", [⟨contractKey, "none"⟩]⟩,
    ⟨"wasm", ((twoHops.flatMap Execution.flat).drop 6).take 5⟩,
    ⟨"wasm", (twoHops.flatMap Execution.flat).drop 11⟩]

theorem hops_closed : ∀ e ∈ twoHops, e.Closed := by
  unfold Execution.Closed
  decide

theorem parse_laid_out_hops :
    (hopsTx.sending [hopsMessage.emitting (twoHops.map fun e => ⟨"wasm", e.flat⟩)]).parse =
      (hopsTx.sending [hopsMessage.emitting hopsCut]).parse ∧
    (hopsTx.sending [hopsMessage.emitting [⟨"wasm", twoHops.flatMap Execution.flat⟩]]).parse =
      (hopsTx.sending [hopsMessage.emitting hopsCut]).parse ∧
    ∃ first second : Swap, (hopsTx.sending [hopsMessage.emitting hopsCut]).parse =
        .ok [.swap first, .swap second] ∧
      first.ReadFrom ⟨"A", 150, 1689174781, "alice"⟩ (hop "first" "orai" "usdt" "10" "19") ∧
      second.ReadFrom ⟨"A", 150, 1689174781, "alice"⟩ (hop "second" "usdt" "atom" "19" "3") := by
  have cut : Carry hopsCut (twoHops.flatMap Execution.flat) := Carry.iff_eq.mpr (by decide)
  obtain ⟨relaid, reads⟩ := parse_laid_out hops_closed cut hopsTx [] [] hopsMessage
  have timed : Timestamp.parse? hopsTx.timestamp = some 1689174781 := by decide +kernel
  obtain ⟨exactly, -⟩ := reads 1689174781 (.route ⟨[], none, none⟩) .swaps timed rfl
    (by decide +kernel) (.route _)
  refine ⟨relaid _ (Execution.carry_each twoHops), relaid _ (Execution.carry_all twoHops), ?_⟩
  obtain ⟨result, parsed⟩ :
      ∃ result, (hopsTx.sending [hopsMessage.emitting hopsCut]).parse = .ok result :=
    Result.isOk_iff.mp (by decide +kernel)
  obtain ⟨before, groups, after, none, each, none', same⟩ := (exactly result).mp parsed
  have counted : twoHops.filter Harvest.swaps.counts =
      [hop "first" "orai" "usdt" "10" "19", hop "second" "usdt" "atom" "19" "3"] := by decide
  rw [counted] at each
  obtain ⟨_, _, ⟨first, read, rfl⟩, others, rfl⟩ := List.forall₂_cons_left_iff.mp each
  obtain ⟨_, _, ⟨second, read', rfl⟩, end_, rfl⟩ := List.forall₂_cons_left_iff.mp others
  obtain rfl := List.forall₂_nil_left_iff.mp end_
  have silent : (hopsTx.sending []).parse = .ok [] := by
    simp only [parse, sending, timed]
    rfl
  obtain rfl : before = [] := Except.ok.inj (none.symm.trans silent)
  obtain rfl : after = [] := Except.ok.inj (none'.symm.trans silent)
  subst same
  exact ⟨first, second, parsed, read, read'⟩

end Tx
end PoolIndexer
