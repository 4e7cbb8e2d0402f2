import PoolIndexer.Proofs.Keyed
import PoolIndexer.Proofs.PoolAmount
import PoolIndexer.Replay

/-! What a replay of events leaves behind. A pair has the reserves that its own events give it, one
after the other, and the row of its last event is among those that are left. -/
namespace PoolIndexer

/-! ## Rows -/

section

variable {row r : PoolAmount} {rows : List PoolAmount}

theorem mem_of_mem_putRow (member : r ∈ putRow row rows) : r = row ∨ r ∈ rows := by
  induction rows with
  | nil => exact .inl (List.mem_singleton.mp member)
  | cons head rest ih =>
    unfold putRow at member
    split at member
    · rcases List.mem_cons.mp member with same | later
      · exact .inl same
      · exact .inr (List.mem_cons_of_mem _ later)
    · rcases List.mem_cons.mp member with rfl | later
      · exact .inr List.mem_cons_self
      · exact (ih later).imp_right (List.mem_cons_of_mem _)

theorem mem_putRow_self (row : PoolAmount) (rows : List PoolAmount) : row ∈ putRow row rows := by
  induction rows with
  | nil => exact List.mem_singleton_self row
  | cons head rest ih =>
    unfold putRow
    split
    · exact List.mem_cons_self
    · exact List.mem_cons_of_mem _ ih

/-- A row that is put somewhere takes the place of none but the one with its key. -/
theorem mem_putRow_of_ne (member : r ∈ rows) (other : r.key ≠ row.key) : r ∈ putRow row rows := by
  induction rows with
  | nil => cases member
  | cons head rest ih =>
    unfold putRow
    split
    · rename_i same
      rcases List.mem_cons.mp member with rfl | later
      · exact absurd same other
      · exact List.mem_cons_of_mem _ later
    · rcases List.mem_cons.mp member with rfl | later
      · exact List.mem_cons_self
      · exact List.mem_cons_of_mem _ (ih later)

/-- No two rows have the same key. -/
def DistinctKeys (rows : List PoolAmount) : Prop := rows.Pairwise (·.key ≠ ·.key)

theorem DistinctKeys.eq_of_key (distinct : DistinctKeys rows) :
    ∀ ⦃a⦄, a ∈ rows → ∀ ⦃b⦄, b ∈ rows → a.key = b.key → a = b :=
  List.Pairwise.forall_of_forall_of_flip (R := fun a b => a.key = b.key → a = b)
    (fun _ _ _ => rfl) (distinct.imp fun different same => absurd same different)
    (distinct.imp fun different same => absurd same.symm different)

theorem distinctKeys_putRow (distinct : DistinctKeys rows) (row : PoolAmount) :
    DistinctKeys (putRow row rows) := by
  induction rows with
  | nil => exact List.pairwise_singleton _ _
  | cons head rest ih =>
    obtain ⟨first, others⟩ := List.pairwise_cons.mp distinct
    unfold putRow
    split
    · rename_i same
      exact List.pairwise_cons.mpr ⟨fun r later => same ▸ first r later, others⟩
    · rename_i different
      refine List.pairwise_cons.mpr ⟨fun r member => ?_, ih others⟩
      rcases mem_of_mem_putRow member with rfl | later
      · exact different
      · exact first r later

end

/-! ## Reserves -/

/-- The event changes the pool at an address. -/
def Event.touches (address : String) (event : Event) : Bool := event.poolAddress? == some address

namespace Reserves

/-- The reserves of a pair after those of the events that change its pool. -/
def after (start : Reserves) (pair : Pair) (events : List Event) : Reserves :=
  (events.filter (·.touches pair.address)).foldl (fun r event => r.apply pair event) start

/-- The row that says what the pool at an address holds after an event. -/
def row (r : Reserves) (address : String) (event : Event) : PoolAmount where
  key := RowKey.poolAmount event.time address
  pairAddress := address
  base := r.base
  quote := r.quote
  share := r.share
  height := event.height
  time := event.time

theorem row_keyed (r : Reserves) (address : String) (event : Event) :
    (r.row address event).Keyed := rfl

end Reserves

namespace Replay

variable {pairs : List Pair} {s : Snapshot} {pair : Pair}

/-- The reserves that a replay has come to for a pair. -/
def held (state : Replay) (s : Snapshot) (pair : Pair) : Reserves :=
  (state.reserves.lookup pair.address).getD (.ofSnapshot s pair pair.address)

/-- An event either changes nothing, or it is one of a known pair, whose reserves it changes and
whose row it puts. -/
theorem step_cases (pairs : List Pair) (s : Snapshot) (state : Replay) (event : Event) :
    (step pairs s state event = state ∧
      ∀ address, event.touches address → findByAddress pairs address = none) ∨
    ∃ pair, event.touches pair.address ∧ findByAddress pairs pair.address = some pair ∧
      step pairs s state event =
        ⟨Keyed.insert pair.address ((state.held s pair).apply pair event) state.reserves,
          putRow (((state.held s pair).apply pair event).row pair.address event) state.rows⟩ := by
  unfold step Event.touches
  cases touched : event.poolAddress? with
  | none => simp
  | some address =>
    cases found : findByAddress pairs address with
    | none => simp [found]
    | some pair =>
      have same : pair.address = address := by simpa using List.find?_some found
      subst same
      refine .inr ⟨pair, by simp, found, ?_⟩
      simp only [found]
      rfl

theorem step_held (known : findByAddress pairs pair.address = some pair) (state : Replay)
    (event : Event) : (step pairs s state event).held s pair =
      if event.touches pair.address then (state.held s pair).apply pair event
      else state.held s pair := by
  rcases step_cases pairs s state event with ⟨same, unknown⟩ | ⟨other, touched, found, stepped⟩
  · rw [same, if_neg]
    intro touched
    rw [unknown pair.address touched] at known
    cases known
  · by_cases here : pair.address = other.address
    · rw [here, found] at known
      cases known
      rw [if_pos touched, stepped]
      simp [held, Keyed.lookup_insert_self]
    · have untouched : ¬ event.touches pair.address := by
        simp only [Event.touches, beq_iff_eq] at touched ⊢
        simpa [touched] using Ne.symm here
      rw [if_neg untouched, stepped]
      simp only [held, Keyed.insert, Keyed.lookup_upsert_ne here]

/-- A pair holds what its own events make of what it held before. -/
theorem replay_held (known : findByAddress pairs pair.address = some pair) (events : List Event)
    (state : Replay) :
    (events.foldl (step pairs s) state).held s pair = (state.held s pair).after pair events := by
  induction events generalizing state with
  | nil => rfl
  | cons event rest ih =>
    rw [List.foldl_cons, ih, step_held known]
    by_cases touched : event.touches pair.address
    · simp [Reserves.after, touched]
    · simp [Reserves.after, touched]

/-- Every row is that of an event of its pair. -/
theorem replay_rows {P : PoolAmount → Prop} {events : List Event} {state : Replay}
    (each : ∀ event ∈ events, ∀ r address, event.touches address → P (Reserves.row r address event))
    (before : ∀ row ∈ state.rows, P row) :
    ∀ row ∈ (events.foldl (step pairs s) state).rows, P row := by
  induction events generalizing state with
  | nil => exact before
  | cons event rest ih =>
    obtain ⟨first, others⟩ := List.forall_mem_cons.mp each
    refine ih others ?_
    rcases step_cases pairs s state event with ⟨same, _⟩ | ⟨pair, touched, _, stepped⟩
    · rwa [same]
    · rw [stepped]
      intro row member
      rcases mem_of_mem_putRow member with rfl | present
      · exact first _ _ touched
      · exact before row present

theorem replay_distinct (events : List Event) {state : Replay}
    (distinct : DistinctKeys state.rows) :
    DistinctKeys (events.foldl (step pairs s) state).rows := by
  induction events generalizing state with
  | nil => exact distinct
  | cons event rest ih =>
    refine ih ?_
    rcases step_cases pairs s state event with ⟨same, _⟩ | ⟨pair, _, _, stepped⟩
    · rwa [same]
    · rw [stepped]
      exact distinctKeys_putRow distinct _

/-- A row stays where no further event changes its pool. -/
theorem replay_keeps {events : List Event} {state : Replay} {row : PoolAmount}
    (keyed : row.Keyed) (untouched : ∀ event ∈ events, ¬ event.touches row.pairAddress)
    (present : row ∈ state.rows) : row ∈ (events.foldl (step pairs s) state).rows := by
  induction events generalizing state with
  | nil => exact present
  | cons event rest ih =>
    obtain ⟨first, others⟩ := List.forall_mem_cons.mp untouched
    refine ih others ?_
    rcases step_cases pairs s state event with ⟨same, _⟩ | ⟨pair, touched, _, stepped⟩
    · rwa [same]
    · rw [stepped]
      refine mem_putRow_of_ne present fun same => ?_
      rw [keyed.key_eq_iff (Reserves.row_keyed _ _ _)] at same
      exact first (same.2 ▸ touched)

/-- The row of a pair's last event is left, with what all its events make of its reserves. -/
theorem replay_last (known : findByAddress pairs pair.address = some pair) {events : List Event}
    {last : Event} (isLast : (events.filter (·.touches pair.address)).getLast? = some last)
    (state : Replay) :
    ((state.held s pair).after pair events).row pair.address last ∈
      (events.foldl (step pairs s) state).rows := by
  obtain ⟨earlier, filtered⟩ := List.getLast?_eq_some_iff.mp isLast
  obtain ⟨before, later, rfl, -, rest⟩ := List.filter_eq_append_iff.mp filtered
  obtain ⟨between, behind, rfl, unrelated, touched, empty⟩ := List.filter_eq_cons_iff.mp rest
  have untouched : ∀ event ∈ behind, ¬ event.touches pair.address := List.filter_eq_nil_iff.mp empty
  have split : before ++ (between ++ last :: behind) = (before ++ between) ++ last :: behind :=
    (List.append_assoc _ _ _).symm
  rw [split, List.foldl_append, List.foldl_cons]
  -- no event behind the last one touches the pair, so its row only has to be there by then
  refine replay_keeps (Reserves.row_keyed _ _ _) untouched ?_
  have reserves : (state.held s pair).after pair (before ++ between ++ last :: behind) =
      (((before ++ between).foldl (step pairs s) state).held s pair).apply pair last := by
    rw [replay_held known]
    simp [Reserves.after, touched, empty]
  rw [reserves]
  rcases step_cases pairs s ((before ++ between).foldl (step pairs s) state) last with
    ⟨_, unknown⟩ | ⟨other, touchedOther, found, stepped⟩
  · rw [unknown pair.address touched] at known
    cases known
  · have same : pair.address = other.address := by
      simp only [Event.touches, beq_iff_eq] at touched touchedOther
      exact Option.some.inj (touched.symm.trans touchedOther)
    rw [← same, known] at found
    cases found
    rw [stepped]
    exact mem_putRow_self _ _

end Replay

/-! ## The history -/

section

variable {events : List Event} {pairs : List Pair} {s : Snapshot}

theorem poolHistory_rows {row : PoolAmount} (member : row ∈ poolHistory events pairs s) :
    ∃ event ∈ events, event.touches row.pairAddress ∧
      ∃ r : Reserves, row = r.row row.pairAddress event := by
  refine Replay.replay_rows (P := fun row => ∃ event ∈ events, event.touches row.pairAddress ∧
    ∃ r : Reserves, row = r.row row.pairAddress event) ?_ ?_ row member
  · exact fun event among r address touched => ⟨event, among, touched, r, rfl⟩
  · simp

theorem poolHistory_distinct (events : List Event) (pairs : List Pair) (s : Snapshot) :
    DistinctKeys (poolHistory events pairs s) :=
  Replay.replay_distinct events List.Pairwise.nil

/-- The row of a pair's last event, with what all its events make of the reserves that a snapshot
gives it. -/
def Snapshot.finalRow (s : Snapshot) (pair : Pair) (events : List Event) (last : Event) :
    PoolAmount :=
  ((Reserves.ofSnapshot s pair pair.address).after pair events).row pair.address last

theorem finalRow_mem {pair : Pair} (known : findByAddress pairs pair.address = some pair)
    {last : Event} (isLast : (events.filter (·.touches pair.address)).getLast? = some last) :
    s.finalRow pair events last ∈ poolHistory events pairs s := Replay.replay_last known isLast {}

end
end PoolIndexer
