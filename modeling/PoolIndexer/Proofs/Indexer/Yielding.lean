import PoolIndexer.Proofs.Indexer.Dividing
import PoolIndexer.Proofs.Indexer.Enriching
import PoolIndexer.Proofs.Indexer.FanOut

/-! The yields that a chunk writes: one row, at the height of the chunk, of each registered pair
that an event concerns and whose three queries are answered, in the order of the registry. -/
namespace PoolIndexer

/-- The event moves the reserves of a pair, or what is staked of its liquidity token. -/
def Event.concerns (pair : Pair) : Event → Bool
  | .swap op => op.pairAddress == pair.address
  | .liquidity op => op.pairAddress == pair.address
  | .stake op => op.token == pair.liquidityToken
  | .earn op => op.token == pair.liquidityToken

/-- The chain answers all three queries about the staking of a pair. -/
def Chain.answersAll (chain : Chain) (height : Nat) (pair : Pair) : Bool :=
  (chain.supply pair.liquidityToken height).isOk && (chain.bond pair.liquidityToken height).isOk &&
    (chain.rewards pair.liquidityToken height).isOk

/-- The row keeps what a chain answers about the staking of a pair at a height. -/
structure PoolApr.Reports (chain : Chain) (height : Nat) (pair : Pair) (row : PoolApr) : Prop where
  address : row.pairAddress = pair.address
  dated : row.height = height
  supply : chain.supply pair.liquidityToken height = .ok row.supply
  bond : chain.bond pair.liquidityToken height = .ok row.bond
  rewards : ∃ rewards, chain.rewards pair.liquidityToken height = .ok rewards ∧
    row.rewards = (Json.arr (rewards.map Asset.toJson)).compact

namespace Indexer

variable {σ : Type} {config : IndexerConfig} {chain : Chain} {chunk : Chunk} {checkpoint : Nat}
  {w v : World σ} {write : ChunkWrite} {height : Nat}

/-! ## The pairs that are touched -/

section

variable {α β γ : Type} {R : α → β → Prop} {l : List α} {l' : List β}

theorem map_eq_of_forall₂ {f : α → γ} {g : β → γ} (each : ∀ a b, R a b → f a = g b)
    (paired : List.Forall₂ R l l') : l.map f = l'.map g := by
  induction paired with
  | nil => rfl
  | cons first _ ih => rw [List.map_cons, List.map_cons, each _ _ first, ih]

theorem forall₂_comp {S : β → γ → Prop} {l'' : List γ} (paired : List.Forall₂ R l l')
    (paired' : List.Forall₂ S l' l'') : List.Forall₂ (fun a c => ∃ b, R a b ∧ S b c) l l'' := by
  induction paired generalizing l'' with
  | nil =>
    cases paired'
    exact .nil
  | cons first _ ih =>
    cases paired' with
    | cons second rest => exact .cons ⟨_, first, second⟩ (ih rest)

end

theorem any_concerns {events : List Event} {pair : Pair} :
    events.any (·.concerns pair) ↔
      pair.address ∈ (events.filterMap Event.swap?).map (·.pairAddress) ++
        (events.filterMap Event.liquidity?).map (·.pairAddress) ∨
      pair.liquidityToken ∈ (events.filterMap Event.stake?).map (·.token) ++
        (events.filterMap Event.earn?).map (·.token) := by
  simp only [List.any_eq_true, List.mem_append, List.mem_map, List.mem_filterMap,
    Event.swap?_eq_some, Event.liquidity?_eq_some, Event.stake?_eq_some, Event.earn?_eq_some]
  constructor
  · rintro ⟨event, member, concerns⟩
    cases event with
    | swap op => exact .inl (.inl ⟨op, ⟨_, member, rfl⟩, beq_iff_eq.mp concerns⟩)
    | liquidity op => exact .inl (.inr ⟨op, ⟨_, member, rfl⟩, beq_iff_eq.mp concerns⟩)
    | stake op => exact .inr (.inl ⟨op, ⟨_, member, rfl⟩, beq_iff_eq.mp concerns⟩)
    | earn op => exact .inr (.inr ⟨op, ⟨_, member, rfl⟩, beq_iff_eq.mp concerns⟩)
  · rintro ((⟨op, ⟨_, member, rfl⟩, same⟩ | ⟨op, ⟨_, member, rfl⟩, same⟩) |
      ⟨op, ⟨_, member, rfl⟩, same⟩ | ⟨op, ⟨_, member, rfl⟩, same⟩)
    all_goals exact ⟨_, member, beq_iff_eq.mpr same⟩

/-- Rows keep the addresses and tokens that pairs are found by. -/
theorem touchedPairs_eq {events : List Event} (records : write.Records events)
    (pairs : List Pair) :
    touchedPairs write pairs = pairs.filter fun pair => events.any (·.concerns pair) := by
  have swaps : write.swaps.map (·.pairAddress) =
      (events.filterMap Event.swap?).map (·.pairAddress) :=
    map_eq_of_forall₂ (fun row op same => by rw [same]) records.swaps
  have changes : write.changes.map (·.pairAddress) =
      (events.filterMap Event.liquidity?).map (·.pairAddress) :=
    map_eq_of_forall₂ (fun row op same => by rw [same.1]) records.changes
  have stakes : write.stakes.map (·.token) = (events.filterMap Event.stake?).map (·.token) :=
    map_eq_of_forall₂ (fun row op same => by rw [same]) records.stakes
  have earnings : write.earnings.map (·.token) = (events.filterMap Event.earn?).map (·.token) :=
    map_eq_of_forall₂ (fun row op same => by rw [same]) records.earnings
  unfold touchedPairs
  dsimp only
  rw [swaps, changes, stakes, earnings]
  refine List.filter_congr fun pair _ => ?_
  rw [Bool.eq_iff_iff, any_concerns, Bool.or_eq_true, List.contains_iff_mem, List.contains_iff_mem]

/-! ## Their rows -/

theorem aprInput_ok {pair : Pair} {input : AprInput} :
    aprInput chain height pair = .ok input ↔ input.pair = pair ∧
      chain.supply pair.liquidityToken height = .ok input.supply ∧
      chain.bond pair.liquidityToken height = .ok input.bond ∧
      chain.rewards pair.liquidityToken height = .ok input.rewardsPerSecond := by
  simp only [aprInput, Result.bind_ok]
  constructor
  · rintro ⟨total, supplied, bonded, bond, rewards, paid, given⟩
    cases given
    exact ⟨rfl, supplied, bond, paid⟩
  · rintro ⟨rfl, supplied, bond, paid⟩
    exact ⟨_, supplied, _, bond, _, paid, rfl⟩

theorem answersAll_eq (chain : Chain) (height : Nat) (pair : Pair) :
    chain.answersAll height pair = (aprInput chain height pair).isOk := by
  unfold Chain.answersAll aprInput
  cases chain.supply pair.liquidityToken height with
  | error e => rfl
  | ok total =>
    cases chain.bond pair.liquidityToken height with
    | error e => rfl
    | ok bonded => cases chain.rewards pair.liquidityToken height <;> rfl

theorem row_reports {pair : Pair} {input : AprInput} {pools : Snapshot} {book : PriceBook}
    {time : Int} {row : PoolApr} (given : aprInput chain height pair = .ok input)
    (made : input.row pools book height time = .ok row) : row.Reports chain height pair := by
  obtain ⟨rfl, supplied, bonded, paid⟩ := aprInput_ok.mp given
  obtain ⟨apr, _, rfl⟩ := Result.return_ok.mp made
  exact ⟨rfl, rfl, supplied, bonded, _, paid, rfl⟩

/-- The rows are those of the inputs that could be had, in their order. -/
theorem firstAprs_rows {pairs : List Pair} {pools : Snapshot} {time : Int} {rows : List PoolApr}
    (first : firstAprs config chain pairs pools height time = .ok rows) :
    List.Forall₂ (fun input row => ∃ book, AprInput.row input pools book height time = .ok row)
      (settled (pairs.map (aprInput chain height))) rows := by
  unfold firstAprs at first
  split at first
  · rename_i none
    cases first
    rw [List.isEmpty_iff.mp none]
    exact .nil
  · obtain ⟨book, _, mapped⟩ := Result.bind_ok.mp first
    exact (Result.mapM_iff.mp mapped).imp fun _ _ made => ⟨book, made⟩

/-- Every pair that is answered has a row, and no other pair has. -/
theorem firstAprs_reports {pairs : List Pair} {pools : Snapshot} {time : Int}
    {rows : List PoolApr} (first : firstAprs config chain pairs pools height time = .ok rows) :
    List.Forall₂ (PoolApr.Reports chain height) (pairs.filter (chain.answersAll height)) rows := by
  have inputs := Result.filterMap_toOption (aprInput chain height) pairs
  simp only [← answersAll_eq] at inputs
  refine (forall₂_comp inputs (firstAprs_rows first)).imp fun pair row => ?_
  rintro ⟨input, given, book, made⟩
  exact row_reports given made

/-! ## What is built -/

theorem poolAprs_outcome (config : IndexerConfig) (chain : Chain) (pairs : List Pair)
    (pools : Snapshot) (height : Nat) (time : Int) (w : World σ) :
    Task.Breaks (poolAprs config chain pairs pools height time) w ∨
      ∃ rows v, poolAprs config chain pairs pools height time w = (.ok rows, v) := by
  by_cases blocked : ∃ pair, PriceBook.Defines config.hub config.usdt pairs pair ∧
      PriceBook.Blocked pools pair
  · exact .inl (poolAprs_breaks.mpr blocked)
  · right
    obtain ⟨book, priced⟩ := PriceBook.resolve_ok.mpr fun pair defines singular =>
      blocked ⟨pair, defines, singular⟩
    obtain ⟨rows, made⟩ :=
      aprRows_ok (settled (pairs.map (aprInput chain height))) pools book height time
    have first : ∃ rows, firstAprs config chain pairs pools height time = .ok rows := by
      unfold firstAprs
      split
      · exact ⟨[], rfl⟩
      · exact ⟨rows, Result.bind_ok.mpr ⟨book, priced, made⟩⟩
    obtain ⟨rows, given⟩ := first
    exact ⟨rows, poolAprs_gives given w⟩

/-- Once the pools are answered, only an arithmetic error keeps a chunk from being built. -/
theorem buildChunk_outcome {answers : List (Option Pool)}
    (answered : chain.pools ((Registry.pairs w.registry).map (·.address)) checkpoint =
      .ok answers) :
    Task.Breaks (buildChunk config chain chunk checkpoint) w ∨
      ∃ write v, buildChunk config chain chunk checkpoint w = (.ok write, v) := by
  unfold buildChunk
  dsimp only
  split
  · exact .inr ⟨_, _, rfl⟩
  · obtain ⟨u, resolved⟩ := resolvePools_answered answered w
    refine Task.bind_outcome rfl (Task.bind_outcome resolved ?_)
    cases derives : derive config (Tx.parseAll chunk.txs) chunk.newHeight
        (Registry.pairs w.registry) (.ofAnswers (Registry.pairs w.registry) answers checkpoint) with
    | error e => exact .inl ⟨e, u, rfl⟩
    | ok derived =>
      refine Task.bind_outcome (Task.compute_ok.mpr ⟨rfl, rfl⟩) ?_
      split
      · exact .inr ⟨_, _, rfl⟩
      · rcases poolAprs_outcome config chain _ _ _ _ u with breaks | ⟨rows, v, given⟩
        · exact .inl (Task.bind_breaks.mpr (.inl breaks))
        · exact Task.bind_outcome given (.inr ⟨_, _, rfl⟩)

theorem buildChunk_succeeds :
    (∃ write v, buildChunk config chain chunk checkpoint w = (.ok write, v)) ↔
    ¬ Task.Breaks (buildChunk config chain chunk checkpoint) w ∧
      (Tx.parseAll chunk.txs = [] ∨ ∃ answers,
        chain.pools ((Registry.pairs w.registry).map (·.address)) checkpoint = .ok answers) := by
  constructor
  · rintro ⟨write, v, built⟩
    refine ⟨?_, ?_⟩
    · rintro ⟨e, u, stopped⟩
      rw [built] at stopped
      cases stopped
    · rcases buildChunk_ok built with ⟨empty, _⟩ | ⟨_, answers, _, answered, _⟩
      · exact .inl empty
      · exact .inr ⟨answers, answered⟩
  · rintro ⟨sturdy, empty | ⟨answers, answered⟩⟩
    · unfold buildChunk
      rw [empty]
      exact ⟨_, _, rfl⟩
    · exact (buildChunk_outcome answered).resolve_left sturdy

/-- The registered pairs that an event of the chunk concerns. -/
def concerned (chunk : Chunk) (w : World σ) : List Pair :=
  (Registry.pairs w.registry).filter fun pair => (Tx.parseAll chunk.txs).any (·.concerns pair)

/-- The yields that are built are those of the concerned pairs, against some pools. -/
theorem buildChunk_yields (built : buildChunk config chain chunk checkpoint w = (.ok write, v)) :
    ∃ pools time, firstAprs config chain (concerned chunk w) pools chunk.newHeight time =
      .ok write.poolAprs := by
  unfold concerned
  rcases buildChunk_completed built with ⟨empty, rfl⟩ |
    ⟨_, answers, derived, _, derives, _, u, yielded⟩
  · exact ⟨default, 0, by simp [empty, firstAprs]⟩
  · have first := poolAprs_yields _ _ _ _ _ _ yielded
    rw [touchedPairs_eq (derive_records derives)] at first
    exact ⟨_, _, first⟩

theorem buildChunk_reports (built : buildChunk config chain chunk checkpoint w = (.ok write, v)) :
    List.Forall₂ (PoolApr.Reports chain chunk.newHeight)
      ((concerned chunk w).filter (chain.answersAll chunk.newHeight)) write.poolAprs := by
  obtain ⟨pools, time, first⟩ := buildChunk_yields built
  exact firstAprs_reports first

/-- Whatever the order in which the queries of the concerned pairs are answered, the rows are those
of the results that are given. -/
theorem buildChunk_given (built : buildChunk config chain chunk checkpoint w = (.ok write, v))
    {concurrency : Nat} {actions : List FanOut.Action} {f : FanOut}
    (ran : FanOut.run (fun _ => chain) chunk.newHeight concurrency
      { waiting := concerned chunk w } actions = some f) (finished : f.Finished) :
    write.poolAprs.map (fun row => (row.pairAddress, row.supply, row.bond)) =
      (settled (f.given.map (·.2))).map fun input =>
        (input.pair.address, input.supply, input.bond) := by
  obtain ⟨pools, time, first⟩ := buildChunk_yields built
  rw [FanOut.given_results ran finished]
  refine (map_eq_of_forall₂ (fun input row => ?_) (firstAprs_rows first)).symm
  rintro ⟨book, made⟩
  obtain ⟨apr, _, rfl⟩ := Result.return_ok.mp made
  rfl

/-- Queries for yields settle pair by pair, in whatever order they are answered, and a chunk has
one row of each registered pair that an event concerns and that all three are answered for. No
answer about staking keeps a chunk from being built. -/
theorem yields_settle (config : IndexerConfig) (chain : Chain) (chunk : Chunk) (checkpoint : Nat)
    (w : World σ) :
    (∀ (chains : Pair → Chain) (height concurrency : Nat) (pairs : List Pair)
        (actions : List FanOut.Action) (f : FanOut),
      FanOut.run chains height concurrency { waiting := pairs } actions = some f →
        FanOut.Settles chains height concurrency pairs actions f) ∧
    (∀ (height concurrency : Nat) (pairs : List Pair) (actions : List FanOut.Action) (f : FanOut),
      FanOut.run (fun _ => chain) height concurrency { waiting := pairs } actions = some f →
        f.Finished → Task.Gives (fetchAprInputs chain pairs height : Task σ _)
          (f.given.map (·.2))) ∧
    ((∃ write v, buildChunk config chain chunk checkpoint w = (.ok write, v)) ↔
      ¬ Task.Breaks (buildChunk config chain chunk checkpoint) w ∧
        (Tx.parseAll chunk.txs = [] ∨ ∃ answers,
          chain.pools ((Registry.pairs w.registry).map (·.address)) checkpoint = .ok answers)) ∧
    ∀ write v, buildChunk config chain chunk checkpoint w = (.ok write, v) →
      List.Forall₂ (PoolApr.Reports chain chunk.newHeight)
        ((concerned chunk w).filter (chain.answersAll chunk.newHeight)) write.poolAprs ∧
      ∀ (concurrency : Nat) (actions : List FanOut.Action) (f : FanOut),
        FanOut.run (fun _ => chain) chunk.newHeight concurrency
          { waiting := concerned chunk w } actions = some f → f.Finished →
        write.poolAprs.map (fun row => (row.pairAddress, row.supply, row.bond)) =
          (settled (f.given.map (·.2))).map fun input =>
            (input.pair.address, input.supply, input.bond) :=
  ⟨fun _ _ _ _ _ _ => FanOut.run_settles, fun _ _ _ _ _ => FanOut.fetch_of_finished,
    buildChunk_succeeds, fun _ _ built =>
      ⟨buildChunk_reports built, fun _ _ _ => buildChunk_given built⟩⟩

/-! Two pairs, of which the second is answered first, and the first fails. -/

open LatestReserves (swapPair swapChain swapConfig swapSeeded)

def bondedChain : Chain :=
  { swapChain with
    supply := fun token _ => if token = swapPair.liquidityToken then .ok 1000 else .error "none"
    bond := fun _ _ => .ok 500
    rewards := fun _ _ => .ok [] }

def unbondedPair : Pair := { swapPair with address := "stray", liquidityToken := "stray lp" }

theorem yields_settle_mixed :
    (∃ f, FanOut.run (fun _ => bondedChain) 199 2 { waiting := [unbondedPair, swapPair] }
        [.start, .start, .answer 1, .answer 1, .answer 0, .answer 1, .give, .give] = some f ∧
      f.given = [("stray", .error "none"), (swapPair.address, .ok ⟨swapPair, 1000, 500, []⟩)] ∧
      f.given = [unbondedPair, swapPair].map (FanOut.result (fun _ => bondedChain) 199)) ∧
    (FanOut.run (fun _ => bondedChain) 199 0 { waiting := [unbondedPair, swapPair] }
        [.start, .start] = none ∧
      ∃ rest f, FanOut.run (fun _ => bondedChain) 199 0 { waiting := [unbondedPair, swapPair] }
        rest = some f ∧ f.Finished) ∧
    ∃ write v row, buildChunk swapConfig bondedChain mixedChunk 100 swapSeeded.world =
        (.ok write, v) ∧ write.poolAprs = [row] ∧
      (row.pairAddress, row.height, row.supply, row.bond) = (swapPair.address, 199, 1000, 500) := by
  obtain ⟨settles, -, -, reports⟩ :=
    yields_settle swapConfig bondedChain mixedChunk 100 swapSeeded.world
  have ran : FanOut.run (fun _ => bondedChain) 199 2 { waiting := [unbondedPair, swapPair] }
      [.start, .start, .answer 1, .answer 1, .answer 0, .answer 1, .give, .give] =
    some ⟨[], [], [("stray", .error "none"), (swapPair.address, .ok ⟨swapPair, 1000, 500, []⟩)]⟩ :=
    rfl
  refine ⟨⟨_, ran, rfl, (settles _ _ _ _ _ _ ran).settled ⟨rfl, rfl⟩⟩,
    ⟨rfl, (settles (fun _ => bondedChain) 199 0 _ [] _ rfl).finishes⟩, ?_⟩
  have builds : (buildChunk swapConfig bondedChain mixedChunk 100
      swapSeeded.world).1.toOption.isSome := by
    unfold buildChunk
    rw [mixedChunk, Tx.parseAll_singleton]
    decide +kernel
  obtain ⟨write, v, built⟩ := Task.ok_of_isSome builds
  obtain ⟨rows, -⟩ := reports write v built
  have counted : (concerned mixedChunk swapSeeded.world).filter
      (bondedChain.answersAll mixedChunk.newHeight) = [swapPair] := by
    rw [concerned, mixedChunk, Tx.parseAll_singleton]
    decide +kernel
  rw [counted] at rows
  obtain ⟨row, _, report, others, only⟩ := List.forall₂_cons_left_iff.mp rows
  cases others
  refine ⟨write, v, row, built, only, ?_⟩
  rw [report.address, report.dated, ← Except.ok.inj report.supply, ← Except.ok.inj report.bond]
  rfl

end Indexer
end PoolIndexer
