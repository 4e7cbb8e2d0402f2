import PoolIndexer.Chain.Query
import PoolIndexer.Http
import PoolIndexer.Json.Reader
import PoolIndexer.Retry
import PoolIndexer.Runs
import PoolIndexer.Text.Base64

/-!
Asking contracts through the web interface of a node.

A query stands in the path of a request, encoded in Base64. Each one is tried up to three times.
The pools of many pairs are asked for in batches, and a factory's pairs page by page.
-/
namespace PoolIndexer

/-- A node's interface, and the contracts that are asked through it. -/
structure Lcd where
  base : Url
  multicall : String
  staking : String
  deriving DecidableEq, Repr, Inhabited

inductive LcdError
  | notABase (url : Url)
  | failed (contract : String)
  /-- A listing did not end within the pages allowed for it. -/
  | unfinished (factory : String)
  deriving DecidableEq, Repr

def LcdError.message : LcdError → String
  | .notABase url => "LCD URL " ++ url.text ++ " cannot be a base"
  | .failed contract => "Smart query to " ++ contract ++ " failed"
  | .unfinished factory => "Too many pages of pairs in factory " ++ factory

/-- What is said of an address that cannot be read. -/
def invalidLcdUrl : String := "Invalid LCD URL"

namespace Lcd

variable {σ α : Type}

/-- The pauses between attempts, in milliseconds. -/
def pauses : List Nat := [100, 200]

/-- Pairs that are asked for at once. -/
def batchSize : Nat := 20

/-- Pairs on a full page of a listing. -/
def pageSize : Nat := 30

/-- The request for a query. -/
def request? (lcd : Lcd) (contract : String) (query : ContractQuery) (height : Option Nat) :
    Option HttpRequest :=
  (lcd.base.extend? ["cosmwasm", "wasm", "v1", "contract", contract, "smart",
    Base64.ofText query.text]).map fun url => { target := url.target, height }

/-- The answer that a body holds. -/
def answer? (read : Document → Option α) (body : String) : Option α := do
  match (← Json.document? body).fields? ["data"] with
  | some [some data] => read data
  | _ => none

/-- One attempt at a request. -/
def attempt (http : Http σ) (read : Document → Option α) (request : HttpRequest) (s : σ) :
    Except Unit α × σ :=
  let (content, s) := http.content? request s
  match content.bind (answer? read) with
  | some a => (.ok a, s)
  | none => (.error (), s)

/-- Asks a contract. -/
def ask (lcd : Lcd) (http : Http σ) (contract : String) (query : ContractQuery)
    (height : Option Nat) (read : Document → Option α) (s : σ) : Except LcdError α × σ :=
  match lcd.request? contract query height with
  | none => (.error (.notABase lcd.base), s)
  | some request =>
    match retry http.sleep (attempt http read request) pauses s with
    | (.ok a, s) => (.ok a, s)
    | (.error _, s) => (.error (.failed contract), s)

/-! ## Pools -/

/-- The pool that one result of a batch holds. -/
def pool? (result : CallResult) : Option Pool :=
  if result.success then do
    let bytes ← Base64.decode? result.data.toList
    (← Json.documentOfBytes? bytes) |> Pool.ofDocument? .text
  else none

/-- The pools that the results of a batch hold, one for each pair asked for. -/
def alignedPools (addresses : List String) (results : List CallResult) : List (Option Pool) :=
  addresses.zipIdx.map fun (_, i) => (results[i]?).bind pool?

/-- Asks for the pools of one batch of pairs. -/
def batch (lcd : Lcd) (http : Http σ) (height : Nat) (addresses : List String) (s : σ) :
    Except LcdError (List (Option Pool)) × σ :=
  let calls := addresses.map fun address => (address, Base64.ofText ContractQuery.pool.text)
  match lcd.ask http lcd.multicall (.aggregate calls) (some height) aggregate? s with
  | (.ok results, s) => (.ok (alignedPools addresses results), s)
  | (.error e, s) => (.error e, s)

/-- Asks batch by batch; a batch that fails is the end. -/
def batches (lcd : Lcd) (http : Http σ) (height : Nat) :
    List (List String) → σ → Except LcdError (List (Option Pool)) × σ
  | [], s => (.ok [], s)
  | addresses :: rest, s =>
    match lcd.batch http height addresses s with
    | (.error e, s) => (.error e, s)
    | (.ok pools, s) =>
      match lcd.batches http height rest s with
      | (.ok others, s) => (.ok (pools ++ others), s)
      | (.error e, s) => (.error e, s)

/-- The pools of pairs at a height, by position. -/
def pools (lcd : Lcd) (http : Http σ) (addresses : List String) (height : Nat) (s : σ) :
    Except LcdError (List (Option Pool)) × σ :=
  lcd.batches http height (runs batchSize addresses) s

/-! ## Listings -/

/-- The query for the page after the pairs listed so far. -/
def nextPage (listed : List Pair) : ContractQuery :=
  .pairs (listed.getLast?.map fun p => (p.base, p.quote)) (some pageSize)

/-- The pairs of a factory after those listed so far. A page that is not full is the last one. -/
def listing (lcd : Lcd) (http : Http σ) (factory : String) :
    Nat → List Pair → σ → Except LcdError (List Pair) × σ
  | 0, _, s => (.error (.unfinished factory), s)
  | allowed + 1, listed, s =>
    match lcd.ask http factory (nextPage listed) none pairs? s with
    | (.error e, s) => (.error e, s)
    | (.ok page, s) =>
      if page.length < pageSize then (.ok (listed ++ page), s)
      else lcd.listing http factory allowed (listed ++ page) s

/-- All pairs of a factory, which are on no more than a number of pages. -/
def factoryPairs (lcd : Lcd) (http : Http σ) (allowed : Nat) (factory : String) :
    σ → Except LcdError (List Pair) × σ :=
  lcd.listing http factory allowed []

/-! ## Staking -/

def supply (lcd : Lcd) (http : Http σ) (token : String) (height : Nat) :
    σ → Except LcdError Int × σ :=
  lcd.ask http token .tokenInfo (some height) fun d => (TokenInfo.ofDocument? d).map (·.totalSupply)

def bond (lcd : Lcd) (http : Http σ) (token : String) (height : Nat) :
    σ → Except LcdError Int × σ :=
  lcd.ask http lcd.staking (.poolInfo token) (some height)
    fun d => (StakingPool.ofDocument? d).map (·.totalBond)

def rewards (lcd : Lcd) (http : Http σ) (token : String) (height : Nat) :
    σ → Except LcdError (List Asset) × σ :=
  lcd.ask http lcd.staking (.rewardsPerSec token) (some height) rewards?

end Lcd
end PoolIndexer
