import Mathlib.Data.List.Find
import PoolIndexer.Proofs.Indexer.Dividing
import PoolIndexer.Proofs.Insertion
import PoolIndexer.Proofs.Stamping

/-! Reserves that are resolved, stored and rebuilt. A snapshot has one pool for each pair that it is
made for; its rows are taken by a store as long as their height fits a signed word, and the snapshot
that is rebuilt of the rows which are then latest has the same reserves and the same shares. -/
namespace PoolIndexer

/-! ## The pools of a snapshot -/

namespace Snapshot

theorem get?_insert_self (s : Snapshot) (address : String) (pool : Pool) :
    (s.insert address pool).get? address = some pool := Keyed.lookup_insert_self _ _

theorem get?_insert_ne (s : Snapshot) {address other : String} (pool : Pool)
    (different : address ≠ other) : (s.insert other pool).get? address = s.get? address :=
  Keyed.lookup_upsert_ne different _ _

/-- What is found at an address once the pools of pairs with different addresses are inserted. -/
theorem get?_foldl_insert {pools : List (Pair × Pool)}
    (distinct : (pools.map (·.1.address)).Nodup) (s : Snapshot) (address : String) :
    (pools.foldl (fun s entry => s.insert entry.1.address entry.2) s).get? address =
      ((pools.find? (·.1.address == address)).map (·.2)).or (s.get? address) := by
  induction pools generalizing s with
  | nil => simp
  | cons entry rest ih =>
    obtain ⟨absent, distinct⟩ := List.nodup_cons.mp distinct
    rw [List.foldl_cons, ih distinct]
    by_cases here : entry.1.address = address
    · subst here
      have none : rest.find? (·.1.address == entry.1.address) = none := by
        rw [List.find?_eq_none]
        simpa using fun pair pool later same =>
          absent (List.mem_map.mpr ⟨(pair, pool), later, same⟩)
      simp [none, get?_insert_self]
    · simp [here, get?_insert_ne s entry.2 (Ne.symm here)]

theorem get?_ofPools {height : Nat} {pools : List (Pair × Pool)}
    (distinct : (pools.map (·.1.address)).Nodup) (address : String) :
    (ofPools height pools).get? address = (pools.find? (·.1.address == address)).map (·.2) := by
  have found := get?_foldl_insert distinct (empty height) address
  rwa [show (empty height).get? address = none from rfl, Option.or_none] at found

/-- The pool that is answered for a pair in its place; an empty one if none is. -/
def answered (answers : List (Option Pool)) (pair : Pair) (i : Nat) : Pool :=
  ((answers[i]?).getD none).getD (.empty pair.base pair.quote)

/-- The pool that the first row of a pair describes; an empty one if there is none. -/
def recorded (rows : List PoolAmount) (pair : Pair) : Pool :=
  ((rows.find? (·.pairAddress == pair.address)).map (·.toPool pair)).getD
    (.empty pair.base pair.quote)

theorem ofAnswers_eq (pairs : List Pair) (answers : List (Option Pool)) (height : Nat) :
    ofAnswers pairs answers height =
      ofPools height (pairs.zipIdx.map fun entry => (entry.1, answered answers entry.1 entry.2)) :=
  rfl

theorem ofHistory_eq (pairs : List Pair) (rows : List PoolAmount) (height : Nat) :
    ofHistory pairs rows height =
      ofPools height (pairs.map fun pair => (pair, recorded rows pair)) := by
  unfold ofHistory
  congr 1
  refine List.map_congr_left fun pair _ => ?_
  unfold recorded
  cases rows.find? (·.pairAddress == pair.address) <;> rfl

section

variable {pairs : List Pair} (distinct : (pairs.map (·.address)).Nodup) {pair : Pair}
include distinct

theorem get?_ofAnswers {i : Nat} (there : pairs[i]? = some pair) (answers : List (Option Pool))
    (height : Nat) :
    (ofAnswers pairs answers height).get? pair.address = some (answered answers pair i) := by
  have addresses : (pairs.zipIdx.map fun entry =>
      (entry.1, answered answers entry.1 entry.2)).map (·.1.address) = pairs.map (·.address) := by
    conv_rhs => rw [← List.zipIdx_map_fst 0 pairs]
    simp only [List.map_map]
    rfl
  rw [← addresses] at distinct
  have place : (pair, i) ∈ pairs.zipIdx := List.mem_zipIdx_iff_getElem?.mpr there
  rw [ofAnswers_eq, get?_ofPools distinct,
    find?_of_distinct distinct (List.mem_map.mpr ⟨(pair, i), place, rfl⟩)]
  rfl

theorem get?_ofHistory (member : pair ∈ pairs) (rows : List PoolAmount) (height : Nat) :
    (ofHistory pairs rows height).get? pair.address = some (recorded rows pair) := by
  have addresses : (pairs.map fun pair => (pair, recorded rows pair)).map (·.1.address) =
      pairs.map (·.address) := by
    rw [List.map_map]
    rfl
  rw [← addresses] at distinct
  rw [ofHistory_eq, get?_ofPools distinct,
    find?_of_distinct distinct (List.mem_map.mpr ⟨pair, member, rfl⟩)]
  rfl

end

/-! ## The rows of a snapshot -/

/-- The row of a pair with a pool, at a time. -/
def initialRow (s : Snapshot) (time : Int) (pair : Pair) (pool : Pool) : PoolAmount where
  key := RowKey.poolAmount time pair.address
  pairAddress := pair.address
  base := (pool.reserves pair).1
  quote := (pool.reserves pair).2
  share := pool.totalShare
  height := s.height
  time := time

section

variable {s : Snapshot} {pairs : List Pair} {time : Int}

theorem mem_initialAmounts {pair : Pair} (member : pair ∈ pairs) {pool : Pool}
    (held : s.get? pair.address = some pool) :
    s.initialRow time pair pool ∈ s.initialAmounts pairs time :=
  List.mem_filterMap.mpr ⟨pair, member, by rw [held]; rfl⟩

theorem initialAmounts_height : ∀ r ∈ s.initialAmounts pairs time, r.height = s.height := by
  intro r member
  obtain ⟨pair, -, given⟩ := List.mem_filterMap.mp member
  obtain ⟨pool, -, rfl⟩ := Option.map_eq_some_iff.mp given
  rfl

theorem initialAmounts_addresses :
    ((s.initialAmounts pairs time).map (·.pairAddress)).Sublist (pairs.map (·.address)) := by
  unfold initialAmounts
  induction pairs with
  | nil => exact .slnil
  | cons pair rest ih =>
    cases held : s.get? pair.address with
    | none =>
      rw [List.filterMap_cons_none (by rw [held]; rfl)]
      exact ih.cons _
    | some pool =>
      rw [List.filterMap_cons_some (by rw [held]; rfl)]
      exact ih.cons_cons _

theorem find?_initialAmounts (distinct : (pairs.map (·.address)).Nodup) {pair : Pair}
    (member : pair ∈ pairs) {pool : Pool} (held : s.get? pair.address = some pool) (time : Int) :
    (s.initialAmounts pairs time).find? (·.pairAddress == pair.address) =
      some (s.initialRow time pair pool) :=
  find?_of_distinct (initialAmounts_addresses.nodup distinct) (mem_initialAmounts member held)

/-- The rows can be restored if their height fits a signed word, or if there are none. -/
theorem initialAmounts_restored (low : -twoTo 63 ≤ time) (high : time < twoTo 63)
    (held : ∀ pair ∈ pairs, ∃ pool, s.get? pair.address = some pool) :
    Record.Restored (s.initialAmounts pairs time) ↔ pairs = [] ∨ s.height < twoTo 63 := by
  constructor
  · intro restored
    rcases pairs with _ | ⟨pair, rest⟩
    · exact .inl rfl
    · obtain ⟨pool, here⟩ := held pair List.mem_cons_self
      have stamped := (Record.rows_ok PoolAmount.validateRow_stamped).mp restored.checked _
        (mem_initialAmounts List.mem_cons_self here)
      exact .inr stamped.1
  · rintro (rfl | fits)
    · exact Record.restored_nil
    · refine Record.restored PoolAmount.validateRow_stamped (fun r member => ?_)
        fun r member stamped => PoolAmount.readsBack (stamped.inWords ?_)
      · exact ⟨by rwa [initialAmounts_height r member], by
          rwa [(initialAmounts_at s pairs time r member).2]⟩
      · rwa [(initialAmounts_at s pairs time r member).2]

end

end Snapshot

/-- A pair with two denominations has the reserves of its row. -/
theorem PoolAmount.toPool_reserves {pair : Pair} (apart : pair.base.denom ≠ pair.quote.denom)
    (row : PoolAmount) : (row.toPool pair).reserves pair = (row.base, row.quote) := by
  simp [toPool, Pool.reserves, Pool.amountOf, apart]

/-! ## Rows that are latest -/

section

variable {rows : List PoolAmount} {time : Int} (all : ∀ r ∈ rows, r.Keyed ∧ r.time = time)
include all

/-- Rows of one time are known by their pair as well as by their key. -/
theorem find?_address (address : String) :
    rows.find? (·.pairAddress == address) =
      rows.find? (·.key == RowKey.poolAmount time address) := by
  refine List.find?_congr fun r member => ?_
  obtain ⟨keyed, rfl⟩ := all r member
  rw [keyed, Bool.eq_iff_iff, beq_iff_eq, beq_iff_eq, RowKey.poolAmount_inj]
  simp

/-- Where there were none, the latest row of a pair is the first one that was added. -/
theorem Store.find?_added {s : Store} (empty : s.poolAmounts = []) (address : String) :
    (s.addPoolAmounts rows).latestPoolAmounts.find? (·.pairAddress == address) =
      rows.find? (·.pairAddress == address) := by
  have table : (s.addPoolAmounts rows).poolAmounts = rows.foldl (addNew PoolAmount.key) [] := by
    rw [← empty]
    exact KeyedRows.rows_foldl_upsert s.keyedAmounts rows
  have kept : ∀ r ∈ (s.addPoolAmounts rows).poolAmounts, r.Keyed ∧ r.time = time := by
    intro r member
    rw [table] at member
    rcases mem_of_mem_foldl_addNew member with absent | new
    · cases absent
    · exact all r new
  rw [find?_latest (distinct_pairs kept), find?_address kept, table, find?_foldl_addNew,
    find?_address all]
  rfl

end

/-- The pool that is rebuilt for a pair of two denominations has the reserves and shares of the one
that the snapshot has. -/
theorem Snapshot.rebuilt {s : Snapshot} {pairs : List Pair}
    (distinct : (pairs.map (·.address)).Nodup) {pair : Pair} (member : pair ∈ pairs)
    (apart : pair.base.denom ≠ pair.quote.denom) {pool : Pool}
    (held : s.get? pair.address = some pool) (time : Int) {store : Store}
    (empty : store.poolAmounts = []) (height : Nat) :
    ∃ stored, (ofHistory pairs
        (store.addPoolAmounts (s.initialAmounts pairs time)).latestPoolAmounts height).get?
          pair.address = some stored ∧
      stored.reserves pair = pool.reserves pair ∧ stored.totalShare = pool.totalShare := by
  refine ⟨(s.initialRow time pair pool).toPool pair, ?_, PoolAmount.toPool_reserves apart _, rfl⟩
  rw [get?_ofHistory distinct member, recorded,
    Store.find?_added (initialAmounts_at s pairs time) empty,
    find?_initialAmounts distinct member held]
  rfl

namespace Indexer

/-- Whatever is answered for pairs with different addresses and two denominations each, the rows of
their reserves are taken by a store without any as long as the height fits a signed word; then the
snapshot that is rebuilt of the latest rows has the reserves and shares of the one that was
resolved. Otherwise, unless there are no pairs, nothing is stored. -/
theorem reserves_survive {chain : Chain} {pairs : List Pair} {height : Nat}
    {answers : List (Option Pool)} {time : Int} {w : World Store}
    (distinct : (pairs.map (·.address)).Nodup)
    (apart : ∀ pair ∈ pairs, pair.base.denom ≠ pair.quote.denom)
    (answered : chain.pools (pairs.map (·.address)) height = .ok answers)
    (low : -twoTo 63 ≤ time) (high : time < twoTo 63) (empty : w.store.poolAmounts = []) :
    ∃ pools u, resolvePools chain pairs height w = (.ok pools, u) ∧
      if pairs = [] ∨ height < twoTo 63 then
        ∃ v, insertRecords Store.backend (pools.initialAmounts pairs time) u = (.ok (), v) ∧
          ∀ height', ∀ pair ∈ pairs, ∃ pool stored, pools.get? pair.address = some pool ∧
            (Snapshot.ofHistory pairs v.store.latestPoolAmounts height').get? pair.address =
              some stored ∧
            stored.reserves pair = pool.reserves pair ∧ stored.totalShare = pool.totalShare
      else
        ∃ e, insertRecords Store.backend (pools.initialAmounts pairs time) u = (.error e, u) := by
  obtain ⟨u, resolved⟩ := resolvePools_answered answered w
  have same : u.store = w.store := by
    have unchanged := resolvePools_unchanged chain pairs height w
    rw [resolved] at unchanged
    exact unchanged.store
  refine ⟨_, u, resolved, ?_⟩
  have held : ∀ pair ∈ pairs, ∃ pool,
      (Snapshot.ofAnswers pairs answers height).get? pair.address = some pool := by
    intro pair member
    obtain ⟨i, there⟩ := List.mem_iff_getElem?.mp member
    exact ⟨_, Snapshot.get?_ofAnswers distinct there answers height⟩
  have restored := Snapshot.initialAmounts_restored low high held
  rw [show (Snapshot.ofAnswers pairs answers height).height = height from
    Snapshot.ofPools_height _ _] at restored
  split
  · rename_i fits
    refine ⟨_, insertRecords_restored Batch.poolAmounts_kind (restored.mpr fits) u, ?_⟩
    intro height' pair member
    obtain ⟨pool, here⟩ := held pair member
    have empty : u.store.poolAmounts = [] := by rwa [same]
    obtain ⟨stored, rebuilt, alike⟩ :=
      Snapshot.rebuilt distinct member (apart pair member) here time empty height'
    exact ⟨pool, stored, here, rebuilt, alike⟩
  · rename_i outside
    exact insertRecords_refused Batch.poolAmounts_kind PoolAmount.faithful
      (mt restored.mp outside) u

open LatestReserves (swapPair swapChain)

/-! Two pairs, of which the one is answered with its assets crossed and with one more, and the other
not at all. -/

def unansweredPair : Pair where
  base := .token "airi"
  quote := .native hubDenom
  address := "unanswered"
  liquidityToken := "lp-airi"

def crossedAnswers : List (Option Pool) :=
  [some ⟨[⟨.native "uatom", 7⟩, ⟨swapPair.quote, 2000⟩, ⟨swapPair.base, 1000⟩], 50⟩]

def crossedChain : Chain := { swapChain with pools := fun _ _ => .ok crossedAnswers }

theorem reserves_survive_crossed :
    ∃ pools u v, resolvePools crossedChain [swapPair, unansweredPair] 100 ⟨{}, [], []⟩ =
        (.ok pools, u) ∧
      insertRecords Store.backend (pools.initialAmounts [swapPair, unansweredPair] 1) u =
        (.ok (), v) ∧
      ∀ height, ∀ pair ∈ [swapPair, unansweredPair], ∃ pool stored,
        pools.get? pair.address = some pool ∧
        (Snapshot.ofHistory [swapPair, unansweredPair] v.store.latestPoolAmounts height).get?
          pair.address = some stored ∧
        stored.reserves pair = pool.reserves pair ∧ stored.totalShare = pool.totalShare := by
  have answered : crossedChain.pools ([swapPair, unansweredPair].map (·.address)) 100 =
      .ok crossedAnswers := rfl
  have low : -(twoTo 63 : Int) ≤ 1 := by decide
  have high : (1 : Int) < twoTo 63 := by decide
  have empty : (⟨{}, [], []⟩ : World Store).store.poolAmounts = [] := rfl
  obtain ⟨pools, u, resolved, survives⟩ :=
    reserves_survive (by decide) (by decide) answered low high empty
  rw [if_pos (.inr (by decide))] at survives
  obtain ⟨v, inserted, alike⟩ := survives
  exact ⟨pools, u, v, resolved, inserted, alike⟩

/-- At a height beyond a signed word the rows are refused, and the pool that is rebuilt is empty. -/
theorem high_reserves_lost :
    let pools := Snapshot.ofAnswers [swapPair] crossedAnswers (twoTo 63)
    let stored := insertRecords Store.backend (pools.initialAmounts [swapPair] 1) ⟨{}, [], []⟩
    (resolvePools crossedChain [swapPair] (twoTo 63) (⟨{}, [], []⟩ : World Store)).1 = .ok pools ∧
      stored.1.isOk = false ∧
      (pools.get? swapPair.address).map (·.reserves swapPair) = some (1000, 2000) ∧
      ((Snapshot.ofHistory [swapPair] stored.2.store.latestPoolAmounts (twoTo 63)).get?
        swapPair.address).map (·.reserves swapPair) = some (0, 0) := by
  decide +kernel

end Indexer
end PoolIndexer
