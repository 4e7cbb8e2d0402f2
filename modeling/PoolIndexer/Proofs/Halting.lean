import PoolIndexer.Proofs.Indexer.Processing
import PoolIndexer.Proofs.Delivery

/-! When an indexer gives up. It counts how often in a row one chunk fails, and halts at the
failure that brings the count to the ceiling: not before, whatever else is delivered in between,
and for good. -/
namespace PoolIndexer.Halting

variable {σ : Type} {config : IndexerConfig}

/-! ## Outcomes and streaks -/

inductive Outcome
  /-- The checkpoint had passed the chunk, and it was acknowledged. -/
  | passed
  | committed
  /-- A chunk up to a height was not acknowledged. -/
  | failed (height : Nat)
  deriving DecidableEq, Repr

/-- What became of a chunk: the checkpoint that it met, and whether it was acknowledged. -/
def outcome (checkpoint : Nat) (chunk : Chunk) (acknowledged : Bool) : Outcome :=
  if acknowledged then if chunk.newHeight ≤ checkpoint then .passed else .committed
  else .failed chunk.newHeight

/-- The outcomes that count, the last one first. -/
def counted (outcomes : List Outcome) : List Outcome := (outcomes.filter (· ≠ .passed)).reverse

/-- How many failures of one height stand at the end of outcomes, one after the other. -/
def streak (outcomes : List Outcome) : Nat :=
  match counted outcomes with
  | .failed height :: earlier => 1 + (earlier.takeWhile (· = .failed height)).length
  | _ => 0

theorem counted_passed (outcomes : List Outcome) :
    counted (outcomes ++ [.passed]) = counted outcomes := by
  simp [counted]

theorem counted_append {o : Outcome} (counts : o ≠ .passed) (outcomes : List Outcome) :
    counted (outcomes ++ [o]) = o :: counted outcomes := by
  simp [counted, counts]

theorem streak_passed (outcomes : List Outcome) :
    streak (outcomes ++ [.passed]) = streak outcomes := by
  rw [streak, streak, counted_passed]

theorem streak_committed (outcomes : List Outcome) : streak (outcomes ++ [.committed]) = 0 := by
  simp [streak, counted_append]

/-- A failure of the height that failed last adds to the streak, any other begins a new one. -/
theorem streak_failed (outcomes : List Outcome) (height : Nat) :
    streak (outcomes ++ [.failed height]) =
      if (counted outcomes).head? = some (.failed height) then streak outcomes + 1 else 1 := by
  have last : counted (outcomes ++ [.failed height]) = .failed height :: counted outcomes :=
    counted_append (by simp) outcomes
  simp only [streak, last]
  cases before : counted outcomes with
  | nil => simp
  | cons o earlier =>
    by_cases same : o = .failed height
    · subst same
      simp
      omega
    · simp [same]

/-! ## Runs -/

/-- The indexers that chunks lead to once seeding has succeeded, with what became of the chunks.
The chain and the backend may be others at every call, and between calls anything may happen to
the store. An indexer at work may be seeded again. -/
inductive Served (config : IndexerConfig) : List Outcome → Indexer σ → Prop
  | seeded {backend : Backend σ} {chain : Chain} {times : Indexer.SeedTimes} {store : σ}
      {i : Indexer σ}
      (seeded : Indexer.seed config chain backend times (Indexer.start store) = .ok (.ok (), i)) :
      Served config [] i
  | reseeded {backend : Backend σ} {chain : Chain} {times : Indexer.SeedTimes}
      {outcomes : List Outcome} {i i' : Indexer σ} (before : Served config outcomes i) (running : i.run.phase = .running)
      (seeded : Indexer.seed config chain backend times i = .ok (.ok (), i')) :
      Served config outcomes i'
  | meanwhile {outcomes : List Outcome} {i : Indexer σ} (before : Served config outcomes i)
      (store : σ) : Served config outcomes { i with world.store := store }
  | process {backend : Backend σ} {chain : Chain} {chunk : Chunk} {outcomes : List Outcome}
      {i i' : Indexer σ} {acknowledged : Bool} (before : Served config outcomes i)
      (taken : Indexer.process config chain backend chunk i = .ok (acknowledged, i')) :
      Served config (outcomes ++ [outcome i.run.checkpoint chunk acknowledged]) i'

/-- The failures in a row after which an indexer halts. -/
def ceiling (config : IndexerConfig) : Nat := max config.maxChunkAttempts 1

theorem ceiling_pos : 0 < ceiling config := Nat.le_max_right _ _

/-- Some call brought the streak to the ceiling. -/
def Reaches (config : IndexerConfig) (outcomes : List Outcome) : Prop :=
  ∃ before, before <+: outcomes ∧ streak before = ceiling config

theorem reaches_append {outcomes : List Outcome} {o : Outcome} :
    Reaches config (outcomes ++ [o]) ↔
      Reaches config outcomes ∨ streak (outcomes ++ [o]) = ceiling config := by
  unfold Reaches
  constructor
  · rintro ⟨before, within, reached⟩
    rcases List.prefix_concat_iff.mp within with rfl | earlier
    · exact .inr reached
    · exact .inl ⟨before, earlier, reached⟩
  · rintro (⟨before, within, reached⟩ | reached)
    · exact ⟨before, within.trans (List.prefix_append _ _), reached⟩
    · exact ⟨_, List.prefix_rfl, reached⟩

/-! ## The count -/

/-- The streak as an indexer at work keeps it: the height that failed last, and the count. -/
def kept (outcomes : List Outcome) : Option (Nat × Nat) :=
  match (counted outcomes).head? with
  | some (.failed height) => some (height, streak outcomes)
  | _ => none

/-- What an indexer keeps says what became of the chunks: it is at work below the ceiling with the
streak counted, or it has halted. -/
inductive Counts (config : IndexerConfig) (outcomes : List Outcome) (run : Indexer.RunState) : Prop
  | working (running : run.phase = .running) (active : run.halted = false)
      (keeps : run.streak = kept outcomes) (below : streak outcomes < ceiling config)
      (unreached : ¬ Reaches config outcomes)
  | halted (failed : run.phase = .failed) (halted : run.halted = true)
      (reached : Reaches config outcomes)

variable {outcomes : List Outcome} {run : Indexer.RunState}

theorem kept_failed (outcomes : List Outcome) (height : Nat) :
    kept (outcomes ++ [.failed height]) =
      some (height, streak (outcomes ++ [.failed height])) := by
  simp [kept, counted_append]

/-- A failure is counted into the streak, and at the ceiling it halts the indexer. -/
theorem fail_eq (keeps : run.streak = kept outcomes) (height : Nat) :
    run.fail config.maxChunkAttempts height =
      if ceiling config ≤ streak (outcomes ++ [.failed height]) then
        { run with streak := kept (outcomes ++ [.failed height]), phase := .failed, halted := true }
      else { run with streak := kept (outcomes ++ [.failed height]) } := by
  rw [kept_failed, streak_failed]
  unfold kept at keeps
  unfold Indexer.RunState.fail ceiling
  cases last : (counted outcomes).head? with
  | none => simp [keeps, last]
  | some o =>
    cases o with
    | passed => simp [keeps, last]
    | committed => simp [keeps, last]
    | failed earlier =>
      by_cases same : earlier = height
      · simp [keeps, last, same]
      · simp [keeps, last, same]

/-! ## The ceiling -/

theorem seeded_counts {backend : Backend σ} {chain : Chain} {times : Indexer.SeedTimes}
    {i i' : Indexer σ}
    (fresh : i.run.streak = kept outcomes) (active : i.run.halted = false)
    (below : streak outcomes < ceiling config) (unreached : ¬ Reaches config outcomes)
    (seeded : Indexer.seed config chain backend times i = .ok (.ok (), i')) :
    Counts config outcomes i'.run := by
  rcases Indexer.seed_cases seeded with ⟨checkpoint, world, _, _, rfl⟩ | ⟨_, _, _, failed, _⟩
  · exact .working rfl active fresh below unreached
  · cases failed

/-- One chunk: the count goes on, and the indexer halts if and only if the chunk fails and brings
the streak to the ceiling. -/
theorem process_counts {backend : Backend σ} {chain : Chain} {chunk : Chunk} {i i' : Indexer σ}
    {acknowledged : Bool} (counts : Counts config outcomes i.run)
    (taken : Indexer.process config chain backend chunk i = .ok (acknowledged, i')) :
    Counts config (outcomes ++ [outcome i.run.checkpoint chunk acknowledged]) i'.run := by
  cases counts with
  | halted failed halted reached =>
    have idle : i.run.phase ≠ .running := by simp [failed]
    rcases Indexer.process_cases taken with ⟨_, _, rfl⟩ | ⟨running, _⟩ | ⟨running, _⟩ | ⟨running, _⟩
    · exact .halted failed halted (reaches_append.mpr (.inl reached))
    · exact absurd running idle
    · exact absurd running idle
    · exact absurd running idle
  | working running active keeps below unreached =>
    rcases Indexer.process_cases taken with ⟨idle, _⟩ | ⟨_, passed, rfl, rfl⟩ |
      ⟨_, ahead, rfl, world, _, rfl⟩ | ⟨_, _, rfl, texts, world, _, rfl⟩
    · exact absurd running idle
    · have label : outcome i'.run.checkpoint chunk true = .passed := by simp [outcome, passed]
      rw [label]
      refine .working running active ?_ ?_ ?_
      · rw [keeps, kept, kept, counted_passed, streak_passed]
      · rwa [streak_passed]
      · rw [reaches_append, streak_passed]
        rintro (reached | reached)
        · exact unreached reached
        · omega
    · have label : outcome i.run.checkpoint chunk true = .committed := by
        simp [outcome, Nat.not_le.mpr ahead]
      have above : 0 < ceiling config := ceiling_pos
      rw [label]
      refine .working running active ?_ ?_ ?_
      · simp [kept, counted_append]
      · rwa [streak_committed]
      · rw [reaches_append, streak_committed]
        rintro (reached | reached)
        · exact unreached reached
        · omega
    · have label : outcome i.run.checkpoint chunk false = .failed chunk.newHeight := rfl
      -- a streak grows by one at most, so one that is not below the ceiling is at it
      have grows : streak (outcomes ++ [.failed chunk.newHeight]) ≤ ceiling config := by
        have above : 0 < ceiling config := ceiling_pos
        rw [streak_failed]
        split <;> omega
      rw [label]
      dsimp only
      rw [fail_eq keeps]
      by_cases at_ceiling : ceiling config ≤ streak (outcomes ++ [.failed chunk.newHeight])
      · rw [if_pos at_ceiling]
        exact .halted rfl rfl (reaches_append.mpr (.inr (Nat.le_antisymm grows at_ceiling)))
      · rw [if_neg at_ceiling]
        refine .working running active rfl (Nat.lt_of_not_le at_ceiling) ?_
        rw [reaches_append]
        rintro (reached | reached)
        · exact unreached reached
        · omega

theorem served_counts {i : Indexer σ} (served : Served config outcomes i) :
    Counts config outcomes i.run := by
  induction served with
  | seeded seeded =>
    refine seeded_counts (by simp [kept, counted, Indexer.start]) rfl ceiling_pos ?_ seeded
    rintro ⟨before, within, reached⟩
    rw [List.prefix_nil.mp within] at reached
    exact absurd reached (Nat.ne_of_lt ceiling_pos)
  | reseeded before running seeded ih =>
    cases ih with
    | working _ active keeps below unreached =>
      exact seeded_counts keeps active below unreached seeded
    | halted failed => simp [failed] at running
  | meanwhile before store ih => exact ih
  | process before taken ih => exact process_counts ih taken

/-- The indexer halts at the first failure that brings the streak to the ceiling. Before it, the
indexer is at work; from then on it turns every chunk away and does nothing. -/
theorem halted_iff_ceiling {i : Indexer σ} (served : Served config outcomes i) :
    (i.run.halted = true ↔ ∃ before, before <+: outcomes ∧
      streak before = max config.maxChunkAttempts 1) ∧
    (i.run.phase = .failed ↔ i.run.halted = true) ∧
    (i.run.halted = false → i.run.phase = .running) ∧
    (i.run.halted = true → ∀ (chain : Chain) (backend : Backend σ) (chunk : Chunk),
      Indexer.process config chain backend chunk i = .ok (false, i)) := by
  cases served_counts served with
  | working running active _ _ unreached =>
    have unreached : ¬ ∃ before, before <+: outcomes ∧
      streak before = max config.maxChunkAttempts 1 := unreached
    simp [running, active, unreached]
  | halted failed halted reached =>
    have idle : i.run.phase ≠ .running := by simp [failed]
    refine ⟨⟨fun _ => reached, fun _ => halted⟩, by simp [failed, halted], by simp [halted], ?_⟩
    intro _ chain backend chunk
    simp [Indexer.process, idle]

/-! A chunk that fails once and is then committed, and a second one that fails twice, with a chunk
in between that has been passed. -/

def twiceConfig : IndexerConfig := { Delivery.quietConfig with maxChunkAttempts := 2 }

def twiceSeeded : Indexer Journal :=
  Indexer.after (.start {})
    (Indexer.seed twiceConfig Delivery.quietChain Journal.backend (0 : Int) (.start {}))

/-- The same indexer with a store that refuses commits, or no longer does. -/
def setRefusing (refuses : Bool) (i : Indexer Journal) : Indexer Journal :=
  { i with world.store := { i.world.store with refusesCommits := refuses } }

def given (refuses : Bool) (newHeight : Nat) (i : Indexer Journal) : Indexer Journal :=
  Indexer.after (setRefusing refuses i)
    (Indexer.process twiceConfig Delivery.quietChain Journal.backend ⟨[Delivery.stakeTx], newHeight⟩
      (setRefusing refuses i))

theorem given_served {outcomes : List Outcome} {o : Outcome} {i : Indexer Journal} (refuses : Bool)
    (newHeight : Nat) (acknowledged : Bool) (served : Served twiceConfig outcomes i)
    (result : (Indexer.process twiceConfig Delivery.quietChain Journal.backend
        ⟨[Delivery.stakeTx], newHeight⟩ (setRefusing refuses i)).toOption.map (·.1)
      = some acknowledged)
    (label : outcome i.run.checkpoint ⟨[Delivery.stakeTx], newHeight⟩ acknowledged = o) :
    Served twiceConfig (outcomes ++ [o]) (given refuses newHeight i) := by
  have reopened : Served twiceConfig outcomes (setRefusing refuses i) := served.meanwhile _
  rw [← label]
  exact reopened.process (Indexer.taken_after _ result)

def recovered : Indexer Journal := given false 200 (given true 200 twiceSeeded)

def exhausted : Indexer Journal := given true 300 (given true 150 (given true 300 recovered))

theorem exhausted_served : Served twiceConfig
    [.failed 200, .committed, .failed 300, .passed, .failed 300] exhausted := by
  have seeded : Served twiceConfig [] twiceSeeded :=
    .seeded (Indexer.seeded_after _ (by decide +kernel))
  have refused : Served twiceConfig [.failed 200] (given true 200 twiceSeeded) :=
    given_served true 200 false seeded (by decide +kernel) rfl
  have committed : Served twiceConfig [.failed 200, .committed] recovered :=
    given_served false 200 true refused (by decide +kernel) (by decide +kernel)
  have later : Served twiceConfig [.failed 200, .committed, .failed 300]
      (given true 300 recovered) :=
    given_served true 300 false committed (by decide +kernel) rfl
  have passed : Served twiceConfig [.failed 200, .committed, .failed 300, .passed]
      (given true 150 (given true 300 recovered)) :=
    given_served true 150 true later (by decide +kernel) (by decide +kernel)
  exact given_served true 300 false passed (by decide +kernel) rfl

theorem halted_iff_ceiling_twice :
    Served twiceConfig [.failed 200, .committed, .failed 300, .passed, .failed 300] exhausted ∧
      exhausted.run.halted = true ∧ exhausted.run.phase = .failed ∧
      ∀ (chain : Chain) (backend : Backend Journal) (chunk : Chunk),
        Indexer.process twiceConfig chain backend chunk exhausted = .ok (false, exhausted) := by
  obtain ⟨exactly, failed, _, after⟩ := halted_iff_ceiling exhausted_served
  have halted : exhausted.run.halted = true := exactly.mpr ⟨_, List.prefix_rfl, by decide⟩
  exact ⟨exhausted_served, halted, failed.mpr halted, after halted⟩

end PoolIndexer.Halting
