import PoolIndexer.Indexer.FanOut
import PoolIndexer.Proofs.Indexer.Asking

/-! What queries that run side by side come to. In whatever order they are answered, and however
many may run at a time, every pair has the result of its own answers, and results come in the order
of the pairs. -/
namespace PoolIndexer

namespace AprStage

variable (chain : Chain) (height : Nat) (pair : Pair)

/-- The result that a stage leads to. -/
def outcome : AprStage → Except String AprInput
  | supply => Indexer.aprInput chain height pair
  | bond total => do
    let bonded ← chain.bond pair.liquidityToken height
    let rewardsPerSecond ← chain.rewards pair.liquidityToken height
    return { pair, supply := total, bond := bonded, rewardsPerSecond }
  | rewards total bonded => do
    let rewardsPerSecond ← chain.rewards pair.liquidityToken height
    return { pair, supply := total, bond := bonded, rewardsPerSecond }
  | settled result => result

/-- An answer leads on to the result that was ahead. -/
theorem outcome_answered (stage : AprStage) :
    (stage.answered chain height pair).outcome chain height pair =
      stage.outcome chain height pair := by
  cases stage with
  | supply =>
    rw [answered, outcome.eq_1, Indexer.aprInput]
    cases chain.supply pair.liquidityToken height <;> rfl
  | bond total =>
    rw [answered, outcome.eq_2]
    cases chain.bond pair.liquidityToken height <;> rfl
  | rewards total bonded =>
    rw [answered, outcome.eq_3]
    cases chain.rewards pair.liquidityToken height <;> rfl
  | settled result => rfl

/-- The answers that a stage can still need. -/
def left : AprStage → Nat
  | supply => 3
  | bond _ => 2
  | rewards _ _ => 1
  | settled _ => 0

theorem left_answered {stage : AprStage} (unsettled : ¬ stage.isSettled) :
    (stage.answered chain height pair).left < stage.left := by
  cases stage with
  | supply =>
    rw [answered]
    cases chain.supply pair.liquidityToken height <;> simp [left]
  | bond total =>
    rw [answered]
    cases chain.bond pair.liquidityToken height <;> simp [left]
  | rewards total bonded =>
    rw [answered]
    cases chain.rewards pair.liquidityToken height <;> simp [left]
  | settled result => exact absurd rfl unsettled

end AprStage

namespace FanOut

variable {chains : Pair → Chain} {height concurrency : Nat} {f f' : FanOut}

/-! ## Steps -/

/-- One action: a pair begins where there is room, a query that is under way is answered, or the
result of the first pair is given. -/
inductive Advances (chains : Pair → Chain) (height concurrency : Nat) : FanOut → FanOut → Prop
  | start {pair waiting begun given} (room : begun.length < window concurrency) :
    Advances chains height concurrency ⟨pair :: waiting, begun, given⟩
      ⟨waiting, begun ++ [(pair, .supply)], given⟩
  | answer {waiting before pair stage after given} (unsettled : ¬ AprStage.isSettled stage) :
    Advances chains height concurrency ⟨waiting, before ++ (pair, stage) :: after, given⟩
      ⟨waiting, before ++ (pair, stage.answered (chains pair) height pair) :: after, given⟩
  | give {waiting pair result begun given} :
    Advances chains height concurrency ⟨waiting, (pair, .settled result) :: begun, given⟩
      ⟨waiting, begun, given ++ [(pair.address, result)]⟩

theorem step_advances {action : Action}
    (stepped : f.step chains height concurrency action = some f') :
    Advances chains height concurrency f f' := by
  obtain ⟨waiting, begun, given⟩ := f
  cases action with
  | start =>
    cases waiting with
    | nil => cases stepped
    | cons pair rest =>
      obtain ⟨room, same⟩ := Option.ite_none_right_eq_some.mp stepped
      cases same
      exact .start room
  | answer place =>
    simp only [step] at stepped
    split at stepped
    · cases stepped
    · rename_i pair stage found
      obtain ⟨unsettled, same⟩ := Option.ite_none_left_eq_some.mp stepped
      cases same
      obtain ⟨inside, here⟩ := List.getElem?_eq_some_iff.mp found
      have parts : begun = begun.take place ++ (pair, stage) :: begun.drop (place + 1) := by
        rw [← here, List.getElem_cons_drop, List.take_append_drop]
      rw [List.set_eq_take_append_cons_drop, if_pos inside]
      generalize begun.take place = before at parts ⊢
      generalize begun.drop (place + 1) = after at parts ⊢
      subst parts
      exact .answer unsettled
  | give =>
    simp only [step] at stepped
    split at stepped
    · cases stepped
      exact .give
    · cases stepped

/-- Every state that is not finished can go on. -/
theorem exists_step (chains : Pair → Chain) (height concurrency : Nat)
    (unfinished : ¬ f.Finished) :
    ∃ action f', f.step chains height concurrency action = some f' := by
  obtain ⟨waiting, begun, given⟩ := f
  cases begun with
  | nil =>
    cases waiting with
    | nil => exact absurd ⟨rfl, rfl⟩ unfinished
    | cons pair rest =>
      have room : 0 < window concurrency :=
        Nat.lt_of_lt_of_le Nat.zero_lt_one (Nat.le_max_right _ _)
      exact ⟨.start, _, if_pos room⟩
  | cons first rest =>
    obtain ⟨pair, stage⟩ := first
    by_cases settled : stage.isSettled
    · cases stage with
      | settled result => exact ⟨.give, _, rfl⟩
      | supply | bond | rewards => cases settled
    · exact ⟨.answer 0, _, if_neg settled⟩

/-! ## What steps preserve -/

/-- The result of a pair, with its address. -/
def result (chains : Pair → Chain) (height : Nat) (pair : Pair) : String × Except String AprInput :=
  (pair.address, Indexer.aprInput (chains pair) height pair)

/-- The results that a state has given and those that it leads to, in their order. -/
def outcomes (chains : Pair → Chain) (height : Nat) (f : FanOut) :
    List (String × Except String AprInput) :=
  f.given ++ f.begun.map (fun (pair, stage) =>
    (pair.address, stage.outcome (chains pair) height pair)) ++ f.waiting.map (result chains height)

/-- The most actions that pairs that have begun can still need: their answers, and that their
results are given. -/
def ahead : List (Pair × AprStage) → Nat
  | [] => 0
  | (_, stage) :: rest => stage.left + 1 + ahead rest

theorem ahead_append (before after : List (Pair × AprStage)) :
    ahead (before ++ after) = ahead before + ahead after := by
  induction before with
  | nil => exact (Nat.zero_add _).symm
  | cons first rest ih =>
    rw [List.cons_append, ahead, ahead, ih]
    omega

/-- The most actions that a state can still take. -/
def left (f : FanOut) : Nat := 5 * f.waiting.length + ahead f.begun

theorem Advances.outcomes_eq (advances : Advances chains height concurrency f f') :
    f'.outcomes chains height = f.outcomes chains height := by
  cases advances with
  | start => simp [outcomes, result, AprStage.outcome]
  | answer => simp [outcomes, AprStage.outcome_answered]
  | give => simp [outcomes, AprStage.outcome]

theorem Advances.window_le (advances : Advances chains height concurrency f f')
    (within : f.begun.length ≤ window concurrency) : f'.begun.length ≤ window concurrency := by
  cases advances with
  | start room =>
    rw [List.length_append]
    exact room
  | answer => simpa using within
  | give =>
    rw [List.length_cons] at within
    exact Nat.le_of_succ_le within

theorem Advances.left_lt (advances : Advances chains height concurrency f f') :
    f'.left < f.left := by
  cases advances with
  | start =>
    simp only [left, ahead_append, ahead, AprStage.left, List.length_cons]
    omega
  | @answer _ _ pair stage _ _ unsettled =>
    have fewer := AprStage.left_answered (chains pair) height pair unsettled
    simp only [left, ahead_append, ahead]
    omega
  | give => simp [left, ahead]

/-! ## Runs -/

theorem run_cons {action : Action} {actions : List Action}
    (ran : f.run chains height concurrency (action :: actions) = some f') :
    ∃ g, f.step chains height concurrency action = some g ∧
      g.run chains height concurrency actions = some f' :=
  Option.bind_eq_some_iff.mp ran

/-- What holds of a state and of what every step makes of it, holds after a run. -/
theorem run_preserves {P : FanOut → Prop}
    (preserved : ∀ {g g'}, Advances chains height concurrency g g' → P g → P g')
    {actions : List Action} (ran : f.run chains height concurrency actions = some f')
    (holds : P f) : P f' := by
  induction actions generalizing f with
  | nil =>
    cases ran
    exact holds
  | cons action actions ih =>
    obtain ⟨g, stepped, rest⟩ := run_cons ran
    exact ih rest (preserved (step_advances stepped) holds)

/-- Runs are bounded by what is left at first. -/
theorem run_left {actions : List Action}
    (ran : f.run chains height concurrency actions = some f') :
    f'.left + actions.length ≤ f.left := by
  induction actions generalizing f with
  | nil =>
    cases ran
    exact Nat.le_refl _
  | cons action actions ih =>
    obtain ⟨g, stepped, rest⟩ := run_cons ran
    have fewer := (step_advances stepped).left_lt
    have later := ih rest
    rw [List.length_cons]
    omega

/-- Every state can be brought to its end. -/
theorem exists_finish (chains : Pair → Chain) (height concurrency : Nat) (f : FanOut) :
    ∃ actions f', f.run chains height concurrency actions = some f' ∧ f'.Finished := by
  induction bound : f.left using Nat.strongRecOn generalizing f with
  | _ n ih =>
    subst bound
    by_cases finished : f.Finished
    · exact ⟨[], f, rfl, finished⟩
    · obtain ⟨action, g, stepped⟩ := exists_step chains height concurrency finished
      obtain ⟨actions, f', ran, ends⟩ := ih g.left (step_advances stepped).left_lt g rfl
      exact ⟨action :: actions, f', Option.bind_eq_some_iff.mpr ⟨g, stepped, ran⟩, ends⟩

/-- What a state is that actions have led to from the start of a list of pairs. -/
structure Settles (chains : Pair → Chain) (height concurrency : Nat) (pairs : List Pair)
    (actions : List Action) (f : FanOut) : Prop where
  /-- No more pairs have begun than may at a time. -/
  within : f.begun.length ≤ window concurrency
  /-- The results are those of the first pairs. -/
  ordered : f.given <+: pairs.map (result chains height)
  settled : f.Finished → f.given = pairs.map (result chains height)
  bounded : actions.length ≤ 5 * pairs.length
  finishes : ∃ rest f', f.run chains height concurrency rest = some f' ∧ f'.Finished

theorem run_settles {pairs : List Pair} {actions : List Action}
    (ran : run chains height concurrency { waiting := pairs } actions = some f) :
    Settles chains height concurrency pairs actions f := by
  have all : f.outcomes chains height = pairs.map (result chains height) :=
    run_preserves (P := fun g => g.outcomes chains height = pairs.map (result chains height))
      (fun advances same => advances.outcomes_eq.trans same) ran (by simp [outcomes])
  have few := run_left ran
  refine ⟨?_, ?_, ?_, ?_, exists_finish chains height concurrency f⟩
  · exact run_preserves (P := fun g => g.begun.length ≤ window concurrency)
      Advances.window_le ran (Nat.zero_le _)
  · rw [← all, outcomes, List.append_assoc]
    exact List.prefix_append _ _
  · rintro ⟨begun, waiting⟩
    rw [← all]
    simp [outcomes, begun, waiting]
  · simp only [left, ahead] at few
    omega

section

variable {σ : Type} {chain : Chain} {pairs : List Pair} {actions : List Action}
  (ran : run (fun _ => chain) height concurrency { waiting := pairs } actions = some f)
  (finished : f.Finished)
include ran finished

theorem given_results : f.given.map (·.2) = pairs.map (Indexer.aprInput chain height) := by
  rw [(run_settles ran).settled finished, List.map_map]
  rfl

/-- Queries that run side by side come to what the indexer asks one after the other. -/
theorem fetch_of_finished :
    Task.Gives (Indexer.fetchAprInputs chain pairs height : Task σ _) (f.given.map (·.2)) := by
  rw [given_results ran finished]
  exact Task.Gives.mapM (Indexer.fetchAprInput_gives chain height) pairs

end

end FanOut
end PoolIndexer
