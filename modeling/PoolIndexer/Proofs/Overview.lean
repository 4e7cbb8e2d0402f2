import PoolIndexer.Proofs.LatestReserves
import PoolIndexer.Store.Read

/-! The reserves that overviews show. The row for an overview is the last of those that no other
row of the pair comes after, and the latest row of the pair is the first of them. In a store that
indexers have filled, the key of a row tells its pair and time, so there is only one. -/
namespace PoolIndexer

/-! ## Filled stores -/

/-- Every row of reserves has the key of its pair and time. -/
def Store.AllKeyed (s : Store) : Prop := ∀ row ∈ s.poolAmounts, row.Keyed

namespace Store

variable {s s' : Store}

theorem AllKeyed.add {rows : List PoolAmount} (keyed : s.AllKeyed)
    (added : s'.poolAmounts = rows.foldl (addNew PoolAmount.key) s.poolAmounts)
    (new : ∀ row ∈ rows, row.Keyed) : s'.AllKeyed := by
  intro row member
  rw [added] at member
  rcases mem_of_mem_foldl_addNew member with present | later
  · exact keyed row present
  · exact new row later

theorem AllKeyed.of_same (keyed : s.AllKeyed) (same : s'.poolAmounts = s.poolAmounts) :
    s'.AllKeyed := by
  rwa [AllKeyed, same]

end Store

namespace Indexer

variable {config : IndexerConfig} {chain : Chain}

theorem AllKeyed.insert {checkpoint n : Nat} {s s' : Store} {table : Table} {rows : List Json}
    (keyed : s.AllKeyed) (write : SeedWrite checkpoint table rows)
    (inserted : s.insert table rows = .ok (n, s')) : s'.AllKeyed := by
  cases write with
  | pairs => exact keyed.of_same (Store.insert_other (.inl rfl) inserted)
  | aprs => exact keyed.of_same (Store.insert_other (.inr rfl) inserted)
  | amounts =>
    exact keyed.add (Store.insert_poolAmounts inserted) fun row new =>
      (Snapshot.initialAmounts_rows new).1

theorem seedStorage_keyed (config : IndexerConfig) (chain : Chain) (times : Indexer.SeedTimes) :
    Task.Respects (World.Keeps id Store.AllKeyed)
      (seedStorage config chain Store.backend times) := by
  have admits : ∀ checkpoint, Admits id checkpoint (World.Keeps id Store.AllKeyed) := fun _ =>
    { same := fun store _ => World.Keeps.of_same store
      insert := fun write inserted _ keyed => AllKeyed.insert keyed write inserted }
  rw [seedStorage_eq]
  refine Task.Respects.bind (look_respects (fun same _ => World.Keeps.of_same same)
    Store.backend_mirrors.migrate Store.backend_migrate _) fun _ => ?_
  refine (seedCheckpoint_keeps Store.backend_mirrors (fun height keyed =>
    keyed.of_same (Store.raiseCheckpoint_poolAmounts _ height)) _).bind fun checkpoint => ?_
  refine (refresh_respects (admits checkpoint) Store.backend_mirrors (fun _ _ => id) config
    chain).bind fun pairs => ?_
  exact seedHistory_respects (admits checkpoint) Store.backend_mirrors config chain times pairs

theorem process_keyed {chunk : Chunk} {i i' : Indexer Store} {acknowledged : Bool}
    (keyed : i.world.store.AllKeyed)
    (taken : process config chain Store.backend chunk i = .ok (acknowledged, i')) :
    i'.world.store.AllKeyed := by
  cases acknowledged with
  | false =>
    have same : i'.world.store = i.world.store := (process_refused Store.backend_mirrors taken).1
    rwa [same]
  | true =>
    obtain ⟨_, ⟨_, rfl⟩ | ⟨_, write, u, built, committed⟩⟩ :=
      process_accepted Store.backend_mirrors taken
    · exact keyed
    · refine keyed.add (Store.commit_poolAmounts committed) fun row member => ?_
      obtain ⟨event, -, -, r, same⟩ := buildChunk_rows built member
      rw [same]
      exact r.row_keyed _ _

/-- The stores in memory that indexers make of the empty one, whatever the chain answers them. Work
that a computation breaks off leaves the store as it is then. -/
inductive Reachable : Store → Prop
  | empty : Reachable {}
  | seed {config : IndexerConfig} {chain : Chain} {times : Indexer.SeedTimes} {i i' : Indexer Store}
      {result : Except (List String) Unit} (before : Reachable i.world.store)
      (seeded : Indexer.seed config chain Store.backend times i = .ok (result, i')) :
      Reachable i'.world.store
  | seedBroken {config : IndexerConfig} {chain : Chain} {times : Indexer.SeedTimes}
      {w v : World Store}
      {e : ArithmeticError} (before : Reachable w.store)
      (broken : seedStorage config chain Store.backend times w = (.error (.arithmetic e), v)) :
      Reachable v.store
  | process {config : IndexerConfig} {chain : Chain} {chunk : Chunk} {i i' : Indexer Store}
      {acknowledged : Bool} (before : Reachable i.world.store)
      (taken : Indexer.process config chain Store.backend chunk i = .ok (acknowledged, i')) :
      Reachable i'.world.store
  | processBroken {config : IndexerConfig} {chain : Chain} {chunk : Chunk} {checkpoint : Nat}
      {w v : World Store} {e : ArithmeticError} (before : Reachable w.store)
      (broken : indexChunk config chain Store.backend chunk checkpoint w =
        (.error (.arithmetic e), v)) : Reachable v.store

theorem Reachable.keyed {s : Store} (reachable : Reachable s) : s.AllKeyed := by
  induction reachable with
  | empty => exact fun _ absent => nomatch absent
  | @seed config chain times i i' result _ seeded ih =>
    have kept := seedStorage_keyed config chain times i.world ih
    rcases seed_cases seeded with ⟨_, world, run, -, rfl⟩ | ⟨_, world, run, -, rfl⟩
    · rwa [run] at kept
    · rwa [run] at kept
  | @seedBroken config chain times w _ _ _ broken ih =>
    have kept := seedStorage_keyed config chain times w ih
    rwa [broken] at kept
  | process _ taken ih => exact process_keyed ih taken
  | @processBroken config chain chunk checkpoint w v e _ broken ih =>
    have same : v.store = w.store := (indexChunk_error Store.backend_mirrors broken).1
    rwa [same]

end Indexer

/-! ## The row of an overview -/

/-- Of the first two only the greater one counts, and the second where neither is. -/
theorem lastMax?_cons_cons {α : Type} (notGreater : α → α → Bool) (a b : α) (rest : List α) :
    lastMax? notGreater (a :: b :: rest) =
      lastMax? notGreater ((if notGreater a b then b else a) :: rest) := by
  by_cases greater : notGreater a b <;> simp [lastMax?, greater]

namespace PoolAmount

/-- Of two rows one is not before the other. -/
theorem exists_greater (a b : PoolAmount) : ∃ greater, (if !b.earlier a then b else a) = greater ∧
    greater ∈ [a, b] ∧ ¬ greater.earlier a ∧ ¬ greater.earlier b := by
  by_cases before : b.earlier a
  · refine ⟨a, by simp [before], by simp, ?_⟩
    simp only [earlier_iff] at before ⊢
    omega
  · refine ⟨b, by simp [before], by simp, ?_⟩
    simp only [earlier_iff] at before ⊢
    omega

/-- None of the rows comes after the last greatest one. -/
theorem lastMax?_cons (first : PoolAmount) (rows : List PoolAmount) :
    ∃ row, lastMax? (fun a b => !b.earlier a) (first :: rows) = some row ∧
      row ∈ first :: rows ∧ ∀ other ∈ first :: rows, ¬ row.earlier other := by
  induction rows generalizing first with
  | nil => exact ⟨first, rfl, List.mem_singleton_self first, by simp [earlier_iff]⟩
  | cons next rest ih =>
    obtain ⟨greater, chosen, either, notFirst, notNext⟩ := exists_greater first next
    obtain ⟨row, found, member, greatest⟩ := ih greater
    obtain ⟨above, aboveRest⟩ := List.forall_mem_cons.mp greatest
    refine ⟨row, by rw [lastMax?_cons_cons, chosen, found], ?_, ?_⟩
    · rcases List.mem_cons.mp member with rfl | later
      · exact List.mem_append_left rest either
      · exact List.mem_cons_of_mem _ (List.mem_cons_of_mem _ later)
    · rw [List.forall_mem_cons, List.forall_mem_cons]
      refine ⟨?_, ?_, aboveRest⟩
      all_goals
        simp only [earlier_iff] at above notFirst notNext ⊢
        omega

end PoolAmount

namespace Store

/-- Of the rows of a pair exactly one does not come before this one, and that is it. -/
def Greatest (s : Store) (address : String) (latest : PoolAmount) : Prop :=
  s.poolAmounts.filter (fun row => row.pairAddress == address && !row.earlier latest) = [latest]

variable {s : Store}

/-- Rows of a pair at one height and time are the same row. -/
theorem AllKeyed.eq_of_tie (keyed : s.AllKeyed) {a b : PoolAmount} (memberA : a ∈ s.poolAmounts)
    (memberB : b ∈ s.poolAmounts) (pair : a.pairAddress = b.pairAddress) (notBefore : ¬ a.earlier b)
    (notAfter : ¬ b.earlier a) : a = b := by
  have time : a.time = b.time := by
    simp only [PoolAmount.earlier_iff] at notBefore notAfter
    omega
  have key := ((keyed a memberA).key_eq_iff (keyed b memberB)).mpr ⟨time, pair⟩
  exact List.inj_on_of_nodup_map s.keyedAmounts.distinct memberA memberB key

theorem AllKeyed.greatest (keyed : s.AllKeyed) {address : String} {latest : PoolAmount}
    (stored : latest ∈ s.poolAmounts) (its : latest.pairAddress = address)
    (above : ∀ other ∈ s.poolAmounts, other.pairAddress = address → ¬ latest.earlier other) :
    s.Greatest address latest := by
  have apart : s.poolAmounts.Nodup := List.Nodup.of_map PoolAmount.key s.keyedAmounts.distinct
  have only : ∀ row ∈ s.poolAmounts,
      (row.pairAddress == address && !row.earlier latest) = (row == latest) := by
    intro row member
    rw [Bool.eq_iff_iff, Bool.and_eq_true, beq_iff_eq, beq_iff_eq, Bool.not_eq_true']
    constructor
    · rintro ⟨same, notBefore⟩
      exact keyed.eq_of_tie member stored (same.trans its.symm) (by simp [notBefore])
        (above row member same)
    · rintro rfl
      exact ⟨its, by simpa using above row member its⟩
  rw [Greatest, List.filter_congr only, List.filter_beq, List.count_eq_one_of_mem apart stored]
  rfl

/-- The row of an overview and the latest row of the pair are the same. -/
theorem AllKeyed.latestAmountOf_eq (keyed : s.AllKeyed) {address : String} {latest : PoolAmount}
    (stored : latest ∈ s.poolAmounts) (its : latest.pairAddress = address)
    (above : ∀ other ∈ s.poolAmounts, other.pairAddress = address → ¬ latest.earlier other) :
    s.latestAmountOf address = some latest := by
  have own : latest ∈ s.poolAmounts.filter (·.pairAddress == address) :=
    List.mem_filter.mpr ⟨stored, by simpa using its⟩
  cases rows : s.poolAmounts.filter (·.pairAddress == address) with
  | nil => simp [rows] at own
  | cons first rest =>
    obtain ⟨row, found, member, greatest⟩ := PoolAmount.lastMax?_cons first rest
    rw [← rows] at member greatest
    obtain ⟨among, same⟩ := List.mem_filter.mp member
    have same : row.pairAddress = address := by simpa using same
    rw [latestAmountOf, rows, found]
    exact congrArg some (keyed.eq_of_tie among stored (same.trans its.symm) (greatest latest own)
      (above row among same))

end Store

/-- In every store that indexers make, the overview of each pair shows the reserves and shares of the
row that is the latest of the pair, and zeros where there is none; and of the pair's rows that one
alone has the greatest height and time. -/
theorem Store.overviews_latest {s : Store} (reachable : Indexer.Reachable s) (now : Int) :
    (s.overviews now).map (·.pair) = s.pairInfos ∧
    ∀ o ∈ s.overviews now,
      (s.latestPoolAmounts.filter (·.pairAddress == o.pair.address) = [] ∧
        (∀ row ∈ s.poolAmounts, row.pairAddress ≠ o.pair.address) ∧
        o.base = 0 ∧ o.quote = 0 ∧ o.share = 0) ∨
      ∃ latest, s.latestPoolAmounts.filter (·.pairAddress == o.pair.address) = [latest] ∧
        s.Greatest o.pair.address latest ∧
        o.base = latest.base ∧ o.quote = latest.quote ∧ o.share = latest.share := by
  have keyed := reachable.keyed
  constructor
  · rw [overviews, List.map_map]
    exact List.map_id s.pairInfos
  · intro o member
    obtain ⟨pair, -, rfl⟩ := List.mem_map.mp member
    change (s.latestPoolAmounts.filter (·.pairAddress == pair.address) = [] ∧ _) ∨
      ∃ latest, s.latestPoolAmounts.filter (·.pairAddress == pair.address) = [latest] ∧ _
    by_cases present : ∃ row ∈ s.poolAmounts, row.pairAddress = pair.address
    · obtain ⟨row, stored, its⟩ := present
      obtain ⟨latest, only, among, same, above⟩ := latestPoolAmounts_row stored its
      have shown := keyed.latestAmountOf_eq among same above
      refine .inr ⟨latest, only, keyed.greatest among same above, ?_, ?_, ?_⟩
      all_goals simp [overview, shown]
    · have absent : ∀ row ∈ s.poolAmounts, row.pairAddress ≠ pair.address :=
        fun row stored its => present ⟨row, stored, its⟩
      have none : s.poolAmounts.filter (·.pairAddress == pair.address) = [] :=
        List.filter_eq_nil_iff.mpr fun row stored => by simpa using absent row stored
      have shown : s.latestAmountOf pair.address = .none := by
        rw [latestAmountOf, none]
        rfl
      refine .inl ⟨?_, absent, ?_⟩
      · rw [latestPoolAmounts_filter, none]
        rfl
      · simp [overview, shown]

/-! The store after a chunk with a swap. -/

namespace LatestReserves

theorem swap_seeding : Indexer.seed swapConfig swapChain Store.backend (0 : Int) (.start {}) =
    .ok (.ok (), swapSeeded) := Indexer.seeded_after _ (by decide +kernel)

def swapStore : Store := (swapTaken firstChunk swapSeeded).world.store

theorem swapStore_reachable : Indexer.Reachable swapStore := by
  have start : Indexer.Reachable (Indexer.start ({} : Store)).world.store := .empty
  have seeded : Indexer.Reachable swapSeeded.world.store := .seed start swap_seeding
  exact .process seeded first_taken

theorem swapStore_pairs : swapStore.pairInfos.map (·.address) = [swapPair.address] := by
  decide +kernel

theorem swapStore_latest : ∀ row ∈ swapStore.latestPoolAmounts,
    (row.base, row.quote) = (1000010, 1999981) := by
  decide +kernel

/-- The overview of the pair shows what the swap has left in its pool. -/
theorem overviews_swap : ∃ o latest, swapStore.overviews 0 = [o] ∧
    swapStore.latestPoolAmounts.filter (·.pairAddress == o.pair.address) = [latest] ∧
    swapStore.Greatest o.pair.address latest ∧ (o.base, o.quote) = (1000010, 1999981) := by
  obtain ⟨shown, agree⟩ := Store.overviews_latest swapStore_reachable 0
  have addresses := congrArg (List.map PairRow.address) shown
  rw [swapStore_pairs, List.map_map] at addresses
  obtain ⟨o, only, its⟩ := List.map_eq_singleton_iff.mp addresses
  have present : ∃ row ∈ swapStore.poolAmounts, row.pairAddress = swapPair.address := by
    decide +kernel
  rcases agree o (only ▸ List.mem_singleton_self o) with ⟨_, absent, _⟩ |
    ⟨latest, one, greatest, base, quote, _⟩
  · obtain ⟨row, stored, same⟩ := present
    exact absurd (same.trans its.symm) (absent row stored)
  · have among : latest ∈ swapStore.latestPoolAmounts :=
      (List.mem_filter.mp (one ▸ List.mem_singleton_self latest)).1
    refine ⟨o, latest, only, one, greatest, ?_⟩
    rw [base, quote, swapStore_latest latest among]

end LatestReserves
end PoolIndexer
