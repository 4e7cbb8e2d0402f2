import PoolIndexer.Proofs.Balance
import PoolIndexer.Proofs.FirstMet
import PoolIndexer.Proofs.Solvency

/-! What a replay writes is what the balances say. There is one row for each pair and time at which
events changed its pool, with the balances after the last one of them, and the rows together bring
a snapshot to the balances after all events. -/
namespace PoolIndexer

variable {events : List Event} {pairs : List Pair} {s u : Snapshot} {event : Event} {pair : Pair}
  {row r : PoolAmount} {rows : List PoolAmount}

/-! ## Pairs and times -/

/-- The pair and the time that a row is about. -/
def PoolAmount.site (row : PoolAmount) : String × Int := (row.pairAddress, row.time)

/-- The pair whose pool an event changes, if it is a known one, and the time of the event. -/
def Event.site? (pairs : List Pair) (event : Event) : Option (String × Int) :=
  (event.poolAddress?.filter fun address => (findByAddress pairs address).isSome).map
    (·, event.time)

theorem Event.site?_eq_some {address : String} {time : Int} :
    event.site? pairs = some (address, time) ↔
      event.touches address ∧ (findByAddress pairs address).isSome ∧ event.time = time := by
  simp [site?, touches, Option.filter_eq_some_iff, and_assoc, and_left_comm]

theorem PoolAmount.Keyed.key_eq_iff_site (keyed : r.Keyed) (keyed' : row.Keyed) :
    r.key = row.key ↔ r.site = row.site := by
  rw [keyed.key_eq_iff keyed', site, site, Prod.mk.injEq, and_comm]

/-- A row goes to the place of its pair and time, or after all others. -/
theorem putRow_sites (keyed : row.Keyed) (all : ∀ r ∈ rows, r.Keyed) :
    (putRow row rows).map (·.site) =
      if row.site ∈ rows.map (·.site) then rows.map (·.site)
      else rows.map (·.site) ++ [row.site] := by
  induction rows with
  | nil => rfl
  | cons head rest ih =>
    obtain ⟨first, others⟩ := List.forall_mem_cons.mp all
    unfold putRow
    by_cases here : head.key = row.key
    · have same : head.site = row.site := (first.key_eq_iff_site keyed).mp here
      simp [here, same]
    · have different : ¬ row.site = head.site := fun same =>
        here ((first.key_eq_iff_site keyed).mpr same.symm)
      rw [if_neg here, List.map_cons, ih others]
      by_cases later : row.site ∈ rest.map (·.site)
      · simp only [List.map_cons, List.mem_cons, later, or_true, if_true]
      · simp only [List.map_cons, List.mem_cons, later, different, or_false, if_false,
          List.cons_append]

theorem mem_putRow_distinct (distinct : DistinctKeys rows) (member : r ∈ putRow row rows) :
    r = row ∨ r ∈ rows ∧ r.key ≠ row.key := by
  have distinctAfter := distinctKeys_putRow distinct row
  rcases mem_of_mem_putRow member with same | present
  · exact .inl same
  · by_cases here : r.key = row.key
    · exact .inl (distinctAfter.eq_of_key member (mem_putRow_self row rows) here)
    · exact .inr ⟨present, here⟩

/-! ## One event more -/

theorem poolHistory_keyed : ∀ row ∈ poolHistory events pairs s, row.Keyed := by
  intro row member
  obtain ⟨event, _, _, r, same⟩ := poolHistory_rows member
  rw [same]
  exact r.row_keyed _ _

/-- An event of a known pair puts the row of its pair and time, and any other event changes
nothing. -/
theorem poolHistory_concat (events : List Event) (event : Event) (pairs : List Pair)
    (s : Snapshot) :
    (event.site? pairs = none ∧
      poolHistory (events ++ [event]) pairs s = poolHistory events pairs s) ∨
    ∃ pair, findByAddress pairs pair.address = some pair ∧ event.touches pair.address ∧
      poolHistory (events ++ [event]) pairs s =
        putRow ((s.balances pair (events ++ [event])).row pair.address event)
          (poolHistory events pairs s) := by
  unfold poolHistory
  rw [List.foldl_append, List.foldl_cons, List.foldl_nil]
  rcases Replay.step_cases pairs s (events.foldl (Replay.step pairs s) {}) event with
    ⟨same, unknown⟩ | ⟨pair, touched, known, stepped⟩
  · refine .inl ⟨?_, by rw [same]⟩
    refine Option.eq_none_iff_forall_ne_some.mpr fun site its => ?_
    obtain ⟨touched, known, -⟩ := Event.site?_eq_some.mp its
    rw [unknown site.1 touched] at known
    cases known
  · refine .inr ⟨pair, known, touched, ?_⟩
    have held : (s.balances pair (events ++ [event])) =
        ((events.foldl (Replay.step pairs s) {}).held s pair).apply pair event := by
      rw [Replay.replay_held known, Snapshot.balances_eq]
      simp [Reserves.after, touched, Replay.held]
    rw [stepped, held]

theorem poolHistory_sites (events : List Event) (pairs : List Pair) (s : Snapshot) :
    (poolHistory events pairs s).map (·.site) =
      (events.filterMap (Event.site? pairs)).eraseDups := by
  induction events using List.reverseRecOn with
  | nil => rfl
  | append_singleton events event ih =>
    rcases poolHistory_concat events event pairs s with
      ⟨elsewhere, same⟩ | ⟨pair, known, touched, put⟩
    · simp [same, ih, elsewhere]
    · have here : event.site? pairs = some (pair.address, event.time) :=
        Event.site?_eq_some.mpr ⟨touched, by simp [known], rfl⟩
      rw [put, putRow_sites (Reserves.row_keyed _ _ _) poolHistory_keyed, ih, List.filterMap_append]
      simp only [List.filterMap_cons, here, List.filterMap_nil, eraseDups_concat,
        List.mem_eraseDups]
      rfl

/-- The row has the balances of its pair after the last event of its pair and time. -/
def AtLast (pairs : List Pair) (s : Snapshot) (events : List Event) (row : PoolAmount) : Prop :=
  ∃ pair before event after, findByAddress pairs row.pairAddress = some pair ∧
    events = before ++ event :: after ∧ event.site? pairs = some row.site ∧
    (∀ later ∈ after, later.site? pairs ≠ some row.site) ∧
    row = (s.balances pair (before ++ [event])).row row.pairAddress event

theorem AtLast.concat (last : AtLast pairs s events row)
    (elsewhere : event.site? pairs ≠ some row.site) : AtLast pairs s (events ++ [event]) row := by
  obtain ⟨pair, before, final, after, known, rfl, its, none, same⟩ := last
  refine ⟨pair, before, final, after ++ [event], known, ?_, its, ?_, same⟩
  · rw [List.append_assoc, List.cons_append]
  · intro later member
    rcases List.mem_append.mp member with among | here
    · exact none later among
    · rwa [List.mem_singleton.mp here]

theorem poolHistory_last (events : List Event) (pairs : List Pair) (s : Snapshot) :
    ∀ row ∈ poolHistory events pairs s, AtLast pairs s events row := by
  induction events using List.reverseRecOn with
  | nil => simp [poolHistory]
  | append_singleton events event ih =>
    intro row member
    rcases poolHistory_concat events event pairs s with
      ⟨elsewhere, same⟩ | ⟨pair, known, touched, put⟩
    · rw [same] at member
      exact (ih row member).concat (by simp [elsewhere])
    · have here : event.site? pairs = some (pair.address, event.time) :=
        Event.site?_eq_some.mpr ⟨touched, by simp [known], rfl⟩
      rw [put] at member
      rcases mem_putRow_distinct (poolHistory_distinct events pairs s) member with
        rfl | ⟨present, other⟩
      · exact ⟨pair, events, event, [], known, rfl, here, by simp, rfl⟩
      · refine (ih row present).concat fun its => other ?_
        rw [here] at its
        exact ((poolHistory_keyed row present).key_eq_iff_site (Reserves.row_keyed _ _ _)).mpr
          (Option.some.inj its).symm

/-! ## Nothing is owed -/

theorem Snapshot.Solvent.amount (solvent : s.Solvent)
    (shares : ∀ entry ∈ s.pools, 0 ≤ entry.2.totalShare) (address : String) (account : Account) :
    0 ≤ s.amount address account := by
  unfold Snapshot.amount
  cases held : s.get? address with
  | none => cases account <;> exact Int.le_refl 0
  | some pool =>
    cases account with
    | tokens denom => exact (solvent.get? held).amountOf denom
    | shares =>
      obtain ⟨before, after, same, _⟩ := List.lookup_eq_some_iff.mp held
      exact shares (address, pool) (by simp [same])

theorem Snapshot.balances_nonneg (pair : Pair)
    (held : ∀ account, 0 ≤ s.amount pair.address account)
    (added : ∀ event ∈ events, ∀ move ∈ event.moves, 0 ≤ move.2.amount) :
    0 ≤ (s.balances pair events).base ∧ 0 ≤ (s.balances pair events).quote ∧
      0 ≤ (s.balances pair events).share := by
  have additions : ∀ move ∈ (events.filter (·.touches pair.address)).flatMap Event.moves, ∀ n,
      move.2 = .add n → 0 ≤ n := by
    intro move member n same
    obtain ⟨event, among, moved⟩ := List.mem_flatMap.mp member
    have amount := added event (List.mem_filter.mp among).1 move moved
    rwa [same] at amount
  dsimp only [Snapshot.balances]
  exact ⟨balance_nonneg (held _) additions, balance_nonneg (held _) additions,
    balance_nonneg (held _) additions⟩

theorem poolHistory_nonneg (held : ∀ address account, 0 ≤ s.amount address account)
    (added : ∀ event ∈ events, ∀ move ∈ event.moves, 0 ≤ move.2.amount) :
    ∀ row ∈ poolHistory events pairs s, 0 ≤ row.base ∧ 0 ≤ row.quote ∧ 0 ≤ row.share := by
  intro row member
  obtain ⟨pair, before, event, after, -, rfl, -, -, same⟩ := poolHistory_last events pairs s row member
  rw [same]
  refine Snapshot.balances_nonneg pair (held pair.address) fun earlier among => added earlier ?_
  rcases List.mem_append.mp among with past | here
  · exact List.mem_append_left _ past
  · exact List.mem_append_right _ (List.mem_singleton.mp here ▸ List.mem_cons_self)

/-! ## The snapshot after the rows -/

namespace Snapshot

theorem withHistory_other {address : String}
    (other : ∀ row ∈ rows, row.pairAddress = address → findByAddress pairs address = none) :
    (u.withHistory pairs rows).get? address = u.get? address := by
  unfold withHistory
  induction rows generalizing u with
  | nil => rfl
  | cons row rest ih =>
    obtain ⟨first, others⟩ := List.forall_mem_cons.mp other
    rw [List.foldl_cons, ih others]
    cases known : findByAddress pairs row.pairAddress with
    | none => rfl
    | some pair =>
      have different : address ≠ row.pairAddress := by
        rintro rfl
        rw [first rfl] at known
        cases known
      exact Keyed.lookup_upsert_ne different _ _

/-- The last row of a known pair makes its pool. -/
theorem withHistory_last {before after : List PoolAmount}
    (known : findByAddress pairs row.pairAddress = some pair)
    (last : ∀ r ∈ after, r.pairAddress ≠ row.pairAddress) :
    (u.withHistory pairs (before ++ row :: after)).get? row.pairAddress = some (row.toPool pair) := by
  have others : ∀ w : Snapshot,
      (w.withHistory pairs after).get? row.pairAddress = w.get? row.pairAddress :=
    fun w => withHistory_other fun r member same => absurd same (last r member)
  unfold withHistory at others ⊢
  rw [List.foldl_append, List.foldl_cons, others]
  simp only [known]
  exact Keyed.lookup_insert_self _ _

end Snapshot

/-- If the events of a pair come in the order of time, so do its rows. -/
theorem poolHistory_ascending {address : String}
    (ordered : (events.filter (·.touches address)).Pairwise (·.time ≤ ·.time)) :
    (poolHistory events pairs s).Pairwise fun r row =>
      r.pairAddress = address → row.pairAddress = address → r.time ≤ row.time := by
  have sites : (events.filterMap (Event.site? pairs)).Pairwise fun a b =>
      a.1 = address → b.1 = address → a.2 ≤ b.2 := by
    rw [List.pairwise_filterMap]
    refine (List.pairwise_filter.mp ordered).imp fun {event later} before => ?_
    rintro ⟨a, time⟩ its ⟨b, time'⟩ its' rfl rfl
    obtain ⟨touched, -, rfl⟩ := Event.site?_eq_some.mp its
    obtain ⟨touched', -, rfl⟩ := Event.site?_eq_some.mp its'
    exact before touched touched'
  have rows := sites.sublist (eraseDups_sublist _)
  rwa [← poolHistory_sites events pairs s, List.pairwise_map] at rows

/-- The pool of a pair that holds its reserves. -/
def Reserves.pool (r : Reserves) (pair : Pair) : Pool :=
  ⟨[⟨pair.base, r.base⟩, ⟨pair.quote, r.quote⟩], r.share⟩

/-- Of the rows of a pair whose events come in the order of time, that of the last event is the
last. -/
theorem withHistory_touched (known : findByAddress pairs pair.address = some pair)
    (ordered : (events.filter (·.touches pair.address)).Pairwise (·.time ≤ ·.time))
    (touched : ∃ event ∈ events, event.touches pair.address) :
    (u.withHistory pairs (poolHistory events pairs s)).get? pair.address =
      some ((s.balances pair events).pool pair) := by
  obtain ⟨event, among, touches⟩ := touched
  have filled : events.filter (·.touches pair.address) ≠ [] :=
    List.ne_nil_of_mem (List.mem_filter.mpr ⟨among, touches⟩)
  obtain ⟨earlier, final, filtered⟩ : ∃ earlier final,
      events.filter (·.touches pair.address) = earlier ++ [final] :=
    ⟨_, _, (List.dropLast_concat_getLast filled).symm⟩
  have present : s.finalRow pair events final ∈ poolHistory events pairs s :=
    finalRow_mem known (List.getLast?_eq_some_iff.mpr ⟨earlier, filtered⟩)
  have latest : ∀ event ∈ events, event.touches pair.address → event.time ≤ final.time := by
    intro event among touches
    have member := List.mem_filter.mpr ⟨among, touches⟩
    rw [filtered] at member ordered
    rcases List.mem_append.mp member with before | here
    · exact (List.pairwise_append.mp ordered).2.2 event before final (List.mem_singleton_self final)
    · exact Int.le_of_eq (by rw [List.mem_singleton.mp here])
  obtain ⟨before, after, split⟩ := List.append_of_mem present
  have last : ∀ r ∈ after, r.pairAddress ≠ pair.address := by
    intro r behind same
    have member : r ∈ poolHistory events pairs s := by
      rw [split]
      exact List.mem_append_right _ (List.mem_cons_of_mem _ behind)
    obtain ⟨event, among, touches, reserves, its⟩ := poolHistory_rows member
    have ascending : (poolHistory events pairs s).Pairwise _ := poolHistory_ascending ordered
    have distinct := poolHistory_distinct events pairs s
    rw [split] at ascending distinct
    have above : final.time ≤ r.time :=
      (List.pairwise_cons.mp (List.pairwise_append.mp ascending).2.1).1 r behind rfl same
    have below : r.time ≤ final.time := by
      rw [its]
      exact latest event among (same ▸ touches)
    refine (List.pairwise_cons.mp (List.pairwise_append.mp distinct).2.1).1 r behind ?_
    exact ((Reserves.row_keyed _ _ _).key_eq_iff (poolHistory_keyed r member)).mpr
      ⟨Int.le_antisymm above below, same.symm⟩
  rw [split, Snapshot.balances_eq]
  exact Snapshot.withHistory_last known last

/-- A replay writes one row for each known pair and time at which events changed its pool, in the
order in which these are first met, with the balances after the last of the events. If neither the
snapshot nor an event has a negative amount, no row has. Where the events of a pair come in the
order of time, the rows bring its pool to the balances after all events; other pools stay. -/
theorem poolHistory_balances (events : List Event) (pairs : List Pair) (s : Snapshot) :
    (poolHistory events pairs s).map (·.site) =
        (events.filterMap (Event.site? pairs)).eraseDups ∧
      (∀ row ∈ poolHistory events pairs s, AtLast pairs s events row) ∧
      (s.Solvent → (∀ entry ∈ s.pools, 0 ≤ entry.2.totalShare) →
        (∀ event ∈ events, ∀ move ∈ event.moves, 0 ≤ move.2.amount) →
        ∀ row ∈ poolHistory events pairs s, 0 ≤ row.base ∧ 0 ≤ row.quote ∧ 0 ≤ row.share) ∧
      ∀ u : Snapshot,
        (∀ pair, findByAddress pairs pair.address = some pair →
          (∃ event ∈ events, event.touches pair.address) →
          (events.filter (·.touches pair.address)).Pairwise (·.time ≤ ·.time) →
          (u.withHistory pairs (poolHistory events pairs s)).get? pair.address =
            some ((s.balances pair events).pool pair)) ∧
        ∀ address, (∀ event ∈ events, event.touches address →
            findByAddress pairs address = none) →
          (u.withHistory pairs (poolHistory events pairs s)).get? address = u.get? address := by
  refine ⟨poolHistory_sites events pairs s, poolHistory_last events pairs s, ?_, fun u => ⟨?_, ?_⟩⟩
  · intro solvent shares added
    exact poolHistory_nonneg (solvent.amount shares) added
  · exact fun pair known touched ordered => withHistory_touched known ordered touched
  · intro address other
    refine Snapshot.withHistory_other fun row member same => ?_
    obtain ⟨event, among, touches, -⟩ := poolHistory_rows member
    exact other event among (same ▸ touches)

/-! Liquidity is provided and a swap takes more than there is, both in one second; shares are
withdrawn later, and a swap of an unknown pair is in between. -/

def replayedPair : Pair :=
  { base := .native "orai", quote := .token "usdt", address := "p", liquidityToken := "lp" }

def replayedSnapshot : Snapshot :=
  ⟨100, [("p", ⟨[⟨.native "orai", 10⟩, ⟨.token "usdt", 20⟩], 5⟩)]⟩

def replayedEvents : List Event :=
  [.liquidity { key := "", txHash := "A", height := 101, time := 5, pairAddress := "p"
                creator := "c", kind := .provide, firstDenom := "usdt", firstAmount := 1
                secondDenom := "orai", secondAmount := 2, share := 1 },
    .swap { key := "", txHash := "B", height := 102, time := 5, pairAddress := "p", sender := "c"
            offerDenom := "orai", offerAmount := 3, askDenom := "usdt", returnAmount := 30 },
    .swap { key := "", txHash := "C", height := 102, time := 6, pairAddress := "q", sender := "c"
            offerDenom := "orai", offerAmount := 3, askDenom := "usdt", returnAmount := 30 },
    .liquidity { key := "", txHash := "D", height := 103, time := 7, pairAddress := "p"
                 creator := "c", kind := .withdraw, firstDenom := "orai", firstAmount := 5
                 secondDenom := "usdt", secondAmount := 4, share := 1 }]

theorem poolHistory_balances_mixed :
    (poolHistory replayedEvents [replayedPair] replayedSnapshot).map (·.site) =
        [("p", 5), ("p", 7)] ∧
      (∀ row ∈ poolHistory replayedEvents [replayedPair] replayedSnapshot,
        0 ≤ row.base ∧ 0 ≤ row.quote ∧ 0 ≤ row.share) ∧
      (replayedSnapshot.withHistory [replayedPair]
          (poolHistory replayedEvents [replayedPair] replayedSnapshot)).get? "p" =
        some ⟨[⟨.native "orai", 10⟩, ⟨.token "usdt", 0⟩], 5⟩ ∧
      (replayedSnapshot.withHistory [replayedPair]
          (poolHistory replayedEvents [replayedPair] replayedSnapshot)).get? "q" = none := by
  obtain ⟨sites, -, nonneg, after⟩ :=
    poolHistory_balances replayedEvents [replayedPair] replayedSnapshot
  obtain ⟨touched, others⟩ := after replayedSnapshot
  refine ⟨sites.trans (by decide), nonneg ?_ (by decide) (by decide), ?_, others "q" (by decide)⟩
  · simp [Snapshot.Solvent, Pool.Solvent, replayedSnapshot]
  · exact (touched replayedPair (by decide) (by decide) (by decide)).trans (by decide)

end PoolIndexer
