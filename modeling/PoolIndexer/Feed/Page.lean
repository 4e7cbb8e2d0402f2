import PoolIndexer.Json.Reader
import PoolIndexer.Transaction

/-!
Pages of transactions as a node lists them, and the transactions read out of them.

A page lists bodies and results side by side. The events of a message come in a log of its own, or
in one list for all messages, in which each event names the message it belongs to. A transaction
that cannot be read is left out, and the others of its page stay.
-/
namespace PoolIndexer

def Attribute.ofDocument? (d : Document) : Option Attribute :=
  match d.fields? ["key", "value"] with
  | some [some key, value] => do
    return { key := ← key.text?, value := ← orDefault Document.text? "" value }
  | _ => none

def TxEvent.ofDocument? (d : Document) : Option TxEvent :=
  match d.fields? ["type", "attributes"] with
  | some [some type, attributes] => do
    return {
      type := ← type.text?
      attributes := ← orDefault (Document.list? Attribute.ofDocument?) [] attributes }
  | _ => none

/-- The events of one message. -/
structure MessageLog where
  index : Nat
  events : List TxEvent
  deriving DecidableEq, Repr, Inhabited

def MessageLog.ofDocument? (d : Document) : Option MessageLog :=
  match d.fields? ["msg_index", "events"] with
  | some [index, events] => do
    return {
      index := ← orDefault (Document.word? 64) 0 index
      events := ← orDefault (Document.list? TxEvent.ofDocument?) [] events }
  | _ => none

/-- The result of a transaction. -/
structure TxResult where
  height : String
  hash : String
  code : Nat := 0
  timestamp : String := ""
  logs : List MessageLog := []
  events : List TxEvent := []
  deriving DecidableEq, Repr, Inhabited

def TxResult.ofDocument? (d : Document) : Option TxResult :=
  match d.fields? ["height", "txhash", "code", "timestamp", "logs", "events"] with
  | some [some height, some hash, code, timestamp, logs, events] => do
    return {
      height := ← height.text?
      hash := ← hash.text?
      code := ← orDefault (Document.word? 32) 0 code
      timestamp := ← orDefault Document.text? "" timestamp
      logs := ← orDefault (Document.list? MessageLog.ofDocument?) [] logs
      events := ← orDefault (Document.list? TxEvent.ofDocument?) [] events }
  | _ => none

/-- A page of a listing. -/
structure TxPage where
  /-- The messages of each transaction. -/
  bodies : List (List Json) := []
  results : List TxResult := []
  /-- The number of transactions on all pages. -/
  total : Option Nat := none
  deriving Repr, Inhabited

namespace TxPage

/-- The levels that a message on a page may still nest, five containers deep. -/
def messageDepth : Nat := Json.maxDepth - 5

/-- A structure of one field that may be missing. -/
def optionalField? {α : Type} (name : String) (value? : Document → Option α) (default : α)
    (d : Document) : Option α :=
  match d.fields? [name] with
  | some [value] => orDefault value? default value
  | _ => none

def messages? : Document → Option (List Json) :=
  optionalField? "messages" (Document.list? (Json.ofDocument? messageDepth)) []

def body? : Document → Option (List Json) := optionalField? "body" messages? []

/-- The total that a text states; a text that is no number states none. -/
def total? (text : Option String) : Option Nat := text.bind fun s => Numeral.word64? s.toList

def ofDocument? (d : Document) : Option TxPage :=
  match d.fields? ["txs", "tx_responses", "total"] with
  | some [bodies, results, total] => do
    return {
      bodies := ← orDefault (Document.list? body?) [] bodies
      results := ← orDefault (Document.list? TxResult.ofDocument?) [] results
      total := total? (← orDefault (Document.nullable? Document.text?) none total) }
  | _ => none

end TxPage

/-- The events of the message at a position. Logs count if there are any: then it is the first one
of that position. -/
def TxResult.eventsOf (r : TxResult) (index : Nat) : List TxEvent :=
  if r.logs.isEmpty then
    r.events.filter fun e =>
      e.attributes.any fun a => a.key == "msg_index" && a.value == Numeral.text index
  else ((r.logs.find? (·.index == index)).map (·.events)).getD []

/-- The type of a message, empty if it names none. -/
def typeUrlOf (message : Json) : String :=
  match message.get? "@type" with
  | some (.str s) => s
  | _ => ""

/-- The sender and the body of a message that executes a contract. -/
def executeParts? (message : Json) : Option (String × Json) :=
  match message.toDocument.fields? ["sender", "msg"] with
  | some [sender, _] => do
    return (← orDefault Document.text? "" sender, (message.get? "msg").getD .null)
  | _ => none

/-- The message at a position of a transaction. Of one that does not execute a contract only the
type is kept. -/
def TxResult.message? (r : TxResult) (message : Json) (index : Nat) : Option TxMessage :=
  let typeUrl := typeUrlOf message
  if typeUrl = executeTypeUrl then
    (executeParts? message).map fun (sender, body) =>
      { typeUrl, sender, body, events := r.eventsOf index }
  else some { typeUrl }

/-- The transaction of a result and its messages, if its height and all messages can be read. -/
def TxResult.tx? (r : TxResult) (messages : List Json) : Option Tx := do
  let height ← Numeral.word64? r.height.toList
  let messages ← messages.zipIdx.mapM fun (message, index) => r.message? message index
  return { hash := r.hash, height, timestamp := r.timestamp, code := r.code, messages }

/-- A page whose bodies and results do not go together, by their numbers. -/
structure MisalignedPage where
  bodies : Nat
  results : Nat
  deriving DecidableEq, Repr

def MisalignedPage.message (e : MisalignedPage) : String :=
  "Mismatched tx search result: " ++ Numeral.text e.bodies ++ " bodies, "
    ++ Numeral.text e.results ++ " responses"

/-- The transactions of a page that can be read, in order. -/
def TxPage.txs (page : TxPage) : Except MisalignedPage (List Tx) :=
  if page.bodies.length = page.results.length then
    .ok ((page.results.zip page.bodies).filterMap fun (r, messages) => r.tx? messages)
  else .error ⟨page.bodies.length, page.results.length⟩

end PoolIndexer
