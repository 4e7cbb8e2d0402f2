import PoolIndexer.Proofs.Indexer.Seeding
import PoolIndexer.Proofs.Stamping

/-! What asking the chain comes to. The answers alone decide what an indexer makes of them: it makes
no difference what is stored or registered, or what was asked before. -/
namespace PoolIndexer.Indexer

variable {σ : Type} {chain truth : Chain} {config : IndexerConfig} {pairs : List Pair}
  {pools : Snapshot} {height : Nat} {time : Int}

/-! ## Pairs -/

theorem listFactories_gives {factories : List String} {listed : List Pair}
    (lists : listing chain factories = .ok listed) :
    Task.Gives (listFactories chain factories : Task σ _) listed := by
  induction factories generalizing listed with
  | nil =>
    cases lists
    exact Task.gives_pure _
  | cons factory rest ih =>
    obtain ⟨all, mapped, rfl⟩ := Result.map_ok.mp lists
    rw [List.mapM_cons] at mapped
    obtain ⟨pairs, answered, mapping⟩ := Result.bind_ok.mp mapped
    obtain ⟨others, mappedRest, same⟩ := Result.bind_ok.mp mapping
    cases same
    have listedRest : listing chain rest = .ok others.flatten :=
      Result.map_ok.mpr ⟨others, mappedRest, rfl⟩
    refine (Task.gives_ask _ _).bind ((Task.gives_need _ answered).bind ?_)
    exact (ih listedRest).bind (Task.gives_pure _)

/-- What a chain lists, another lists that it follows. -/
theorem listing_follows (follows : chain.Follows truth) {factories : List String}
    {listed : List Pair} (lists : listing chain factories = .ok listed) :
    listing truth factories = .ok listed := by
  obtain ⟨all, answered, rfl⟩ := Result.map_ok.mp lists
  exact Result.map_ok.mpr ⟨all, Result.mapM_of_ok follows.factory answered, rfl⟩

/-! ## Reserves -/

/-- The rows of reserves that the answer of a chain gives rise to. -/
def firstAmounts (chain : Chain) (pairs : List Pair) (height : Nat) (time : Int) :
    Except String (List PoolAmount) :=
  (chain.pools (pairs.map (·.address)) height).map fun answers =>
    (Snapshot.ofAnswers pairs answers height).initialAmounts pairs time

/-- Asks for the reserves of pairs and makes rows of them. -/
def askAmounts (chain : Chain) (pairs : List Pair) (height : Nat) (time : Int) :
    Task σ (List PoolAmount) := do
  return (← resolvePools chain pairs height).initialAmounts pairs time

theorem askAmounts_unchanged (chain : Chain) (pairs : List Pair) (height : Nat) (time : Int) :
    Task.Respects (World.Unchanged (σ := σ)) (askAmounts chain pairs height time) :=
  (resolvePools_unchanged _ _ _).bind fun _ => Task.respects_pure _

theorem askAmounts_yields (chain : Chain) (pairs : List Pair) (height : Nat) (time : Int) :
    Task.Yields (fun rows => firstAmounts chain pairs height time = .ok rows)
      (askAmounts chain pairs height time : Task σ _) := by
  intro w rows v asked
  obtain ⟨pools, u, resolved, given⟩ := Task.bind_ok.mp asked
  obtain ⟨answers, answered, rfl⟩ := resolvePools_ok resolved
  cases given
  exact Result.map_ok.mpr ⟨answers, answered, rfl⟩

theorem askAmounts_gives {rows : List PoolAmount}
    (first : firstAmounts chain pairs height time = .ok rows) :
    Task.Gives (askAmounts chain pairs height time : Task σ _) rows := by
  obtain ⟨answers, answered, rfl⟩ := Result.map_ok.mp first
  refine Task.Gives.bind ((Task.gives_ask _ _).bind ?_) (Task.gives_pure _)
  exact (Task.gives_need _ answered).bind (Task.gives_pure _)

theorem firstAmounts_follows (follows : chain.Follows truth) {rows : List PoolAmount}
    (first : firstAmounts chain pairs height time = .ok rows) :
    firstAmounts truth pairs height time = .ok rows := by
  obtain ⟨answers, answered, same⟩ := Result.map_ok.mp first
  exact Result.map_ok.mpr ⟨answers, follows.pools answered, same⟩

/-- The reserves of one time at another time: only their time and key differ. -/
theorem firstAmounts_stamped (now : Int) {rows : List PoolAmount}
    (first : firstAmounts chain pairs height time = .ok rows) :
    firstAmounts chain pairs height now = .ok (rows.map (·.stamped now)) ∧
      ∀ r ∈ rows, r.Keyed ∧ r.time = time := by
  obtain ⟨answers, answered, rfl⟩ := Result.map_ok.mp first
  refine ⟨Result.map_ok.mpr ⟨answers, answered, ?_⟩, Snapshot.initialAmounts_at _ _ _⟩
  exact (Snapshot.initialAmounts_stamped _ pairs time now).symm

/-! ## Yields -/

/-- What a chain answers of a pair's staking; the first query that fails decides. -/
def aprInput (chain : Chain) (height : Nat) (pair : Pair) : Except String AprInput := do
  let supply ← chain.supply pair.liquidityToken height
  let bond ← chain.bond pair.liquidityToken height
  let rewardsPerSecond ← chain.rewards pair.liquidityToken height
  return { pair, supply, bond, rewardsPerSecond }

theorem fetchAprInput_gives (chain : Chain) (height : Nat) (pair : Pair) :
    Task.Gives (fetchAprInput chain height pair : Task σ _) (aprInput chain height pair) := by
  unfold fetchAprInput aprInput
  refine (Task.gives_ask _ _).bind ?_
  cases chain.supply pair.liquidityToken height with
  | error e => exact Task.gives_pure _
  | ok supply =>
    refine (Task.gives_ask _ _).bind ?_
    cases chain.bond pair.liquidityToken height with
    | error e => exact Task.gives_pure _
    | ok bond =>
      refine (Task.gives_ask _ _).bind ?_
      cases chain.rewards pair.liquidityToken height with
      | error e => exact Task.gives_pure _
      | ok rewards => exact Task.gives_pure _

/-- The rows of yields that the answers of a chain give rise to, against known reserves. -/
def firstAprs (config : IndexerConfig) (chain : Chain) (pairs : List Pair) (pools : Snapshot)
    (height : Nat) (time : Int) : Except ArithmeticError (List PoolApr) :=
  if pairs.isEmpty then .ok []
  else do
    let book ← PriceBook.resolve config.hub config.usdt pairs pools
    aprRows (settled (pairs.map (aprInput chain height))) pools book height time

theorem poolAprs_gives {rows : List PoolApr}
    (first : firstAprs config chain pairs pools height time = .ok rows) :
    Task.Gives (poolAprs config chain pairs pools height time : Task σ _) rows := by
  unfold firstAprs at first
  unfold poolAprs
  split at first
  · rename_i none
    cases first
    rw [if_pos none]
    exact Task.gives_pure _
  · rename_i some
    obtain ⟨book, priced, yielded⟩ := Result.bind_ok.mp first
    rw [if_neg some]
    refine (Task.gives_compute priced).bind (Task.Gives.bind ?_ (Task.gives_compute yielded))
    exact Task.Gives.mapM (fetchAprInput_gives chain height) pairs

theorem poolAprs_yields (config : IndexerConfig) (chain : Chain) (pairs : List Pair)
    (pools : Snapshot) (height : Nat) (time : Int) :
    Task.Yields (fun rows => firstAprs config chain pairs pools height time = .ok rows)
      (poolAprs config chain pairs pools height time : Task σ _) := by
  unfold poolAprs firstAprs
  split
  · exact Task.yields_pure rfl
  · intro w rows v asked
    obtain ⟨book, u, computed, fetching⟩ := Task.bind_ok.mp asked
    obtain ⟨priced, rfl⟩ := Task.compute_ok.mp computed
    obtain ⟨inputs, u, fetched, yielding⟩ := Task.bind_ok.mp fetching
    obtain ⟨yielded, rfl⟩ := Task.compute_ok.mp yielding
    have all : Task.Gives (fetchAprInputs chain pairs height : Task σ _)
      (pairs.map (aprInput chain height)) := Task.Gives.mapM (fetchAprInput_gives chain height) pairs
    obtain rfl := all.yields fetched
    exact Result.bind_ok.mpr ⟨book, priced, yielded⟩

/-- The yields of one time at another time: they are computed alike, and only their time and key
differ. -/
theorem firstAprs_stamped (now : Int) {rows : List PoolApr}
    (first : firstAprs config chain pairs pools height time = .ok rows) :
    firstAprs config chain pairs pools height now = .ok (rows.map (·.stamped now)) ∧
      ∀ r ∈ rows, r.Keyed ∧ r.time = time := by
  unfold firstAprs at first ⊢
  split at first
  · rename_i none
    cases first
    exact ⟨if_pos none, by simp⟩
  · rename_i some
    obtain ⟨book, priced, yielded⟩ := Result.bind_ok.mp first
    obtain ⟨again, all⟩ := aprRows_stamped now yielded
    rw [if_neg some]
    exact ⟨Result.bind_ok.mpr ⟨book, priced, again⟩, all⟩

end PoolIndexer.Indexer
