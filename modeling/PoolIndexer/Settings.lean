import PoolIndexer.Decimal.Binary
import PoolIndexer.Json.Path
import PoolIndexer.Json.Printer
import PoolIndexer.Registry

/-!
The settings of the indexer, read from a configuration file.

The names in the file are paths, so that a field of a section may also stand outside of it. Values
are read leniently: numbers may come as text or truth values, and texts as numbers or truth values.
Fields that are not known are ignored, and most that are missing have a default; a value of `null`
is never taken for a missing one, but for the section of the database.
-/
namespace PoolIndexer

/-- How to reach the database. -/
structure DatabaseSettings where
  host : String
  port : Nat
  user : String
  password : String
  database : String
  /-- Connections that may be open at once. -/
  poolSize : Nat := 16
  deriving DecidableEq, Repr, Inhabited

/-- The chain's interface and the contracts that are asked. -/
structure ChainSettings where
  lcdUrl : String
  multicall : String := "orai1q7x644gmf7h8u8y6y8t9z9nnwl8djkmspypr6mxavsk9ual7dj0sxpmgwd"
  factories : List String := ["orai1hemdkz4xx9kukgrunxu3yw0nvpyxf34v82d2c8",
    "orai167r4ut7avvgpp3rlzksz6vw5spmykluzagvmj3ht845fjschwugqjsqhst"]
  staking : String := "orai19p43y0tqnr5qlhfwnxft2u5unph5yn60y7tuvu"
  hub : String := hubDenom
  usdt : String := usdtContract
  /-- The seconds after which a request is given up. -/
  requestTimeout : Nat := 30
  deriving DecidableEq, Repr, Inhabited

/-- How chunks are fetched and indexed; times are in milliseconds. -/
structure SyncSettings where
  startHeight : Nat := 12388825
  chunkLimit : Nat := 100
  pollInterval : Nat := 5000
  maxChunkAttempts : Nat := 10
  retryBase : Nat := 500
  retryMax : Nat := 60000
  /-- Pairs whose yields are asked for at once. -/
  queryConcurrency : Nat := 8
  taxRate : String := "0.3"
  taxCap : Nat := 1000000
  deriving DecidableEq, Repr, Inhabited

structure Settings where
  /-- Without a database everything is kept in memory. -/
  database : Option DatabaseSettings := none
  chain : ChainSettings
  sync : SyncSettings := {}
  deriving DecidableEq, Repr, Inhabited

namespace Settings

/-! ## Lenient values -/

/-- The number that a word stands for. -/
def wordNumber? (s : String) : Option Nat :=
  let s := String.ofList (s.toList.map Char.toLower)
  if ["true", "on", "yes"].contains s then some 1
  else if ["false", "off", "no"].contains s then some 0
  else none

/-- The nearest unsigned 64-bit word to a number. -/
def nearestWord (x : Binary64) : Nat :=
  match x.toDecimal? with
  | some d => min d.round.toNat (twoTo 64 - 1)
  | none => 0

/-- An unsigned 64-bit word. -/
def word? : Json → Option Nat
  | .int n => if 0 ≤ n then some n.toNat else none
  | .real x => some (nearestWord x)
  | .bool b => some b.toNat
  | .str s =>
    match wordNumber? s with
    | some n => some n
    | none => Numeral.word64? s.toList
  | _ => none

/-- An unsigned number of a width. -/
def bounded? (width : Nat) (j : Json) : Option Nat :=
  (word? j).bind fun n => if n < twoTo width then some n else none

def text? : Json → Option String
  | .str s => some s
  | .bool b => some (Json.bool b).compact
  | .int n => some (Numeral.text n)
  | .real x => some (String.ofList x.plainText)
  | _ => none

def texts? : Json → Option (List String)
  | .arr items => items.mapM text?
  | _ => none

/-! ## Sections -/

/-- The fields of a section by name, or in order if the section is a list. -/
def fields? (names : List String) : Json → Option (List (Option Json))
  | .obj fields => some (names.map fun name => fields.lookup name)
  | .arr items => some ((items.map some ++ List.replicate names.length none).take names.length)
  | _ => none

/-- A field with the value it has if it is missing. -/
def orElse {α : Type} (value? : Json → Option α) (default : α) : Option Json → Option α
  | some j => value? j
  | none => some default

def database? (j : Json) : Option DatabaseSettings :=
  match fields? ["host", "port", "user", "password", "database", "pool_size"] j with
  | some [some host, some port, some user, some password, some database, poolSize] => do
    return {
      host := ← text? host
      port := ← bounded? 16 port
      user := ← text? user
      password := ← text? password
      database := ← text? database
      poolSize := ← orElse word? 16 poolSize }
  | _ => none

def chain? (j : Json) : Option ChainSettings :=
  match fields? ["lcd_url", "multicall_address", "factory_addresses", "staking_address",
    "hub_denom", "usdt_denom", "request_timeout_secs"] j with
  | some [some lcdUrl, multicall, factories, staking, hub, usdt, timeout] => do
    let defaults : ChainSettings := { lcdUrl := ← text? lcdUrl }
    return { defaults with
      multicall := ← orElse text? defaults.multicall multicall
      factories := ← orElse texts? defaults.factories factories
      staking := ← orElse text? defaults.staking staking
      hub := ← orElse text? defaults.hub hub
      usdt := ← orElse text? defaults.usdt usdt
      requestTimeout := ← orElse word? defaults.requestTimeout timeout }
  | _ => none

def sync? (j : Json) : Option SyncSettings :=
  let defaults : SyncSettings := {}
  match fields? ["start_height", "chunk_limit", "poll_interval_ms", "max_chunk_attempts",
    "retry_base_delay_ms", "retry_max_delay_ms", "query_concurrency", "tax_rate", "tax_cap"] j with
  | some [start, limit, poll, attempts, base, max, concurrency, rate, cap] => do
    return {
      startHeight := ← orElse word? defaults.startHeight start
      chunkLimit := ← orElse word? defaults.chunkLimit limit
      pollInterval := ← orElse word? defaults.pollInterval poll
      maxChunkAttempts := ← orElse (bounded? 32) defaults.maxChunkAttempts attempts
      retryBase := ← orElse word? defaults.retryBase base
      retryMax := ← orElse word? defaults.retryMax max
      queryConcurrency := ← orElse word? defaults.queryConcurrency concurrency
      taxRate := ← orElse text? defaults.taxRate rate
      taxCap := ← orElse word? defaults.taxCap cap }
  | _ => none

/-- A section that `null` stands for the absence of. -/
def optional? {α : Type} (value? : Json → Option α) : Json → Option (Option α)
  | .null => some none
  | j => (value? j).map some

/-- The settings that a configuration file holds. -/
def ofJson? : Json → Option Settings
  | .obj fields => do
    let file := Json.ofPaths fields
    return {
      database := ← orElse (optional? database?) none (file.get? "postgres")
      chain := ← (file.get? "chain").bind chain?
      sync := ← orElse sync? {} (file.get? "sync") }
  | _ => none

/-! ## The store -/

/-- The store that the settings ask for. -/
def backendName (s : Settings) : String :=
  match s.database with
  | some _ => "postgres"
  | none => "memory"

end Settings
end PoolIndexer
