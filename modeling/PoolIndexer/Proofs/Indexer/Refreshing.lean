import PoolIndexer.Proofs.Indexer.Filling
import PoolIndexer.Proofs.Registry

/-! What a refresh finds, registers and stores. It registers the tracked pairs that the factories
list, and gives them back in tracked order out of any order of the registry. It stores them only
where their number has changed, so that the stored rows may tell of a pair what it was before. -/
namespace PoolIndexer.Indexer

variable {σ : Type} {view : σ → Store} {config : IndexerConfig} {chain : Chain}
  {backend : Backend σ} {w v : World σ}

/-! ## The registry -/

/-- The tracked pairs among listed ones are, in tracked order, the last one of every mapping that
has any, with the mapping's assets and symbols; the others make no difference. A refresh gives them
back, and if they have different addresses, so does the registry, in whatever order it is read. -/
theorem tracked_registered (config : IndexerConfig) (chain : Chain) (backend : Backend σ) :
    (∀ listed : List Pair,
      List.Forall₂ (fun m entry => ∃ pair, m.LastAmong listed pair ∧
          entry = ({ pair with base := m.base, quote := m.quote }, m.symbols))
        (tracked.filter fun m => ∃ pair ∈ listed, m.Matches pair) (reconcile listed) ∧
      reconcile (listed.filter fun pair => ∃ m ∈ tracked, m.Matches pair) = reconcile listed) ∧
    ∀ {w v : World σ} {pairs : List Pair}, refresh config chain backend w = (.ok pairs, v) →
      (∃ listed, listing chain config.factories = .ok listed ∧
        pairs = (reconcile listed).map (·.1)) ∧
      ((pairs.map (·.address)).Nodup →
        v.registry.Perm (pairs.map fun pair => (pair.address, pair)) ∧
        ∀ entries : List (String × Pair), entries.Perm v.registry →
          Registry.pairs entries = pairs) := by
  constructor
  · intro listed
    refine ⟨?_, reconcile_filter listed⟩
    rw [reconcile_eq]
    exact found_forall₂ listed tracked
  · intro w v pairs refreshed
    obtain ⟨listed, lists, rfl, registry⟩ := refresh_ok chain.follows_self refreshed
    refine ⟨⟨listed, lists, rfl⟩, fun distinct => ?_⟩
    have held := Registry.ofPairs_perm distinct
    change (registryOf listed).Perm _ at held
    rw [← registry] at held
    refine ⟨held, fun entries perm => ?_⟩
    exact Registry.pairs_of_perm (reconcile_ascending listed) (perm.trans held)

/-! A pair that factories list with its assets crossed, and that may change its rate. -/

def refreshConfig : IndexerConfig where
  factories := ["older", "newer"]
  hub := hubDenom
  usdt := usdtContract
  fees := { taxRate := .zero, taxCap := 0 }
  startHeight := 100
  maxChunkAttempts := 3

def crossedPair (address rate : String) : Pair where
  base := .token usdtContract
  quote := .native hubDenom
  address := address
  liquidityToken := "lp"
  commissionRate := rate

/-- The pair in tracked order. -/
def usdtPair (address rate : String) : Pair where
  base := .native hubDenom
  quote := .token usdtContract
  address := address
  liquidityToken := "lp"
  commissionRate := rate

def airiPair (address : String) : Pair where
  base := .token "orai10ldgzued6zjp0mkqwsv2mux3ml50l97c74x8sg"
  quote := .native hubDenom
  address := address
  liquidityToken := "lp-airi"

/-- A chain of two factories, of which the newer one may not answer. -/
def listingChain (older : List Pair) (newer : Except String (List Pair)) : Chain where
  pools _ _ := .error "no pools"
  factory address := if address = "older" then .ok older else newer
  supply _ _ := .error "no supply"
  bond _ _ := .error "no bond"
  rewards _ _ := .error "no rewards"

def refreshed (chain : Chain) (w : World Store) : Except Fault (List Pair) × World Store :=
  refresh refreshConfig chain Store.backend w

/-- The newer of two factories counts, and a pair that is not tracked does not. -/
def relistedChain : Chain :=
  listingChain [crossedPair "p1" "0.003", { crossedPair "p2" "0.003" with base := .native "uatom" }]
    (.ok [crossedPair "p3" "0.003", airiPair "p4"])

theorem tracked_registered_relisted :
    (refreshed relistedChain ⟨{}, [], []⟩).1 = .ok [airiPair "p4", usdtPair "p3" "0.003"] ∧
    ∀ entries : List (String × Pair),
      entries.Perm (refreshed relistedChain ⟨{}, [], []⟩).2.registry →
      Registry.pairs entries = [airiPair "p4", usdtPair "p3" "0.003"] := by
  have found : (refreshed relistedChain ⟨{}, [], []⟩).1 =
      .ok [airiPair "p4", usdtPair "p3" "0.003"] := by decide +kernel
  have ran : refresh refreshConfig relistedChain Store.backend ⟨{}, [], []⟩ =
      (.ok [airiPair "p4", usdtPair "p3" "0.003"], _) := Prod.ext found rfl
  refine ⟨found, fun entries perm => ?_⟩
  exact (((tracked_registered _ _ _).2 ran).2 (by decide)).2 entries perm

/-! ## The stored rows -/

/-- Where the rows are stored, an address has that of the last pair found there, and is left alone
if none is. -/
theorem withPairs_lookup {s : Store} {listed : List Pair}
    (others : s.pairs.length ≠ (reconcile listed).length) (address : String) :
    (s.withPairs listed).pairs.lookup address =
      ((pairRows listed).reverse.find? (·.address == address)).or (s.pairs.lookup address) := by
  unfold Store.withPairs
  rw [if_pos others]
  exact lookup_foldl_putLast (pairRows listed) s.pairs address

theorem find?_pairRows {listed : List Pair} {before after : List (Pair × String)}
    {entry : Pair × String} (found : reconcile listed = before ++ entry :: after)
    (last : ∀ later ∈ after, later.1.address ≠ entry.1.address) :
    (pairRows listed).reverse.find? (·.address == entry.1.address) =
      some (PairRow.ofPair entry.1 entry.2) := by
  have later : (after.map fun e => PairRow.ofPair e.1 e.2).reverse.find?
      (·.address == entry.1.address) = none := by
    rw [List.find?_eq_none]
    simpa only [List.mem_reverse, List.forall_mem_map, beq_iff_eq, PairRow.ofPair] using last
  simp only [pairRows, found, List.map_append, List.map_cons, List.reverse_append,
    List.reverse_cons, List.find?_append, later]
  simp [PairRow.ofPair]

theorem find?_pairRows_none {listed : List Pair} {address : String}
    (absent : ∀ pair ∈ trackedPairs listed, pair.address ≠ address) :
    (pairRows listed).reverse.find? (·.address == address) = none := by
  rw [trackedPairs, List.forall_mem_map] at absent
  rw [List.find?_eq_none]
  simpa only [pairRows, List.mem_reverse, List.forall_mem_map, beq_iff_eq,
    PairRow.ofPair] using absent

/-- Registering pairs does not fail, and no other part of a refresh changes the registry. -/
theorem refresh_error (mirrors : backend.Mirrors view) {e : Fault}
    (failed : refresh config chain backend w = (.error e, v)) : v.registry = w.registry := by
  have settled := storePairs_respects (settled_admits 0) mirrors config chain w
  rw [refresh_eq] at failed
  rcases Task.bind_error.mp failed with here | ⟨pairs, u, _, registering⟩
  · rw [here] at settled
    exact settled.registry
  · cases registering

/-- Where the pairs found are not as many as the stored rows, a refresh that succeeds stores what
is now known of them, of several at one address of the last one, and leaves the rows of other
addresses alone. Where they are as many, all rows stay, and so they do with the registry where it
fails. -/
theorem stored_if_counts_differ (config : IndexerConfig) (chain : Chain) {backend : Backend σ}
    (mirrors : backend.Mirrors view) (w v : World σ) :
    (∀ pairs, refresh config chain backend w = (.ok pairs, v) →
      ∃ listed, listing chain config.factories = .ok listed ∧
        pairs = (reconcile listed).map (·.1) ∧
        if (view w.store).pairInfos.length = pairs.length then
          (view v.store).pairs = (view w.store).pairs
        else
          (∀ before entry after, reconcile listed = before ++ entry :: after →
            (∀ later ∈ after, later.1.address ≠ entry.1.address) →
            ∃ row ∈ (view v.store).pairInfos, row.Describes entry.1 entry.2) ∧
          ∀ address, (∀ pair ∈ pairs, pair.address ≠ address) →
            (view v.store).pairs.lookup address = (view w.store).pairs.lookup address) ∧
    ∀ e, refresh config chain backend w = (.error e, v) →
      (view v.store).pairs = (view w.store).pairs ∧ v.registry = w.registry := by
  have effect := refresh_effect mirrors (s := view w.store) rfl config chain
  constructor
  · intro pairs refreshed
    obtain ⟨listed, lists, rfl, stored⟩ := effect.ok rfl refreshed
    refine ⟨listed, lists, rfl, ?_⟩
    rw [stored, trackedPairs, Store.pairInfos, List.length_map, List.length_map]
    split
    · rename_i asMany
      rw [Store.withPairs, if_neg (not_not_intro asMany)]
    · rename_i others
      refine ⟨fun before entry after found last => ?_, fun address absent => ?_⟩
      · have here := withPairs_lookup others entry.1.address
        rw [find?_pairRows found last, Option.some_or] at here
        obtain ⟨old, new, split, -⟩ := List.lookup_eq_some_iff.mp here
        refine ⟨PairRow.ofPair entry.1 entry.2, ?_, PairRow.ofPair_describes _ _⟩
        rw [Store.pairInfos, split]
        simp
      · rw [withPairs_lookup others, find?_pairRows_none absent, Option.none_or]
  · intro e failed
    exact ⟨congrArg Store.pairs (effect.error rfl failed).symm, refresh_error mirrors failed⟩

/-- Rows come to a table that is empty, and none do where a factory does not answer. -/
theorem stored_if_counts_differ_usdt :
    (refreshed (listingChain [crossedPair "p1" "0.003"] (.ok [])) ⟨{}, [], []⟩).1 =
        .ok [usdtPair "p1" "0.003"] ∧
      (∃ row ∈ (refreshed (listingChain [crossedPair "p1" "0.003"] (.ok []))
          ⟨{}, [], []⟩).2.store.pairInfos, row.Describes (usdtPair "p1" "0.003") "ORAI/USDT") ∧
      (refreshed (listingChain [crossedPair "p1" "0.003"] (.error "down")) ⟨{}, [], []⟩).1 =
        .error (.failed ["Failed to list pairs of factory newer", "down"]) ∧
      (refreshed (listingChain [crossedPair "p1" "0.003"] (.error "down"))
        ⟨{}, [], []⟩).2.store.pairs = [] := by
  have found : (refreshed (listingChain [crossedPair "p1" "0.003"] (.ok [])) ⟨{}, [], []⟩).1 =
      .ok [usdtPair "p1" "0.003"] := by decide +kernel
  have failed : (refreshed (listingChain [crossedPair "p1" "0.003"] (.error "down"))
      ⟨{}, [], []⟩).1 = .error (.failed ["Failed to list pairs of factory newer", "down"]) := by
    decide +kernel
  refine ⟨found, ?_, failed, ?_⟩
  · obtain ⟨listed, lists, -, stored⟩ :=
      (stored_if_counts_differ _ _ Store.backend_mirrors _ _).1 _ (Prod.ext found rfl)
    cases lists
    exact stored.1 [] (usdtPair "p1" "0.003", "ORAI/USDT") [] (by decide +kernel) (by simp)
  · exact ((stored_if_counts_differ _ _ Store.backend_mirrors _ _).2 _ (Prod.ext failed rfl)).1

/-- The world once a pair has been refreshed at one rate. -/
def ratedWorld : World Store :=
  (refreshed (listingChain [crossedPair "p1" "0.003"] (.ok [])) ⟨{}, [], []⟩).2

/-- A pair that is listed at a new rate keeps the row of its old one, and of two pairs at one
address only the last one has a row. -/
theorem stale_or_shadowed :
    ((refreshed (listingChain [crossedPair "p1" "0.005"] (.ok [])) ratedWorld).1 =
        .ok [usdtPair "p1" "0.005"] ∧
      ¬ ∃ row ∈ (refreshed (listingChain [crossedPair "p1" "0.005"] (.ok []))
        ratedWorld).2.store.pairInfos, row.Describes (usdtPair "p1" "0.005") "ORAI/USDT") ∧
    (refreshed (listingChain [crossedPair "p1" "0.003", airiPair "p1"] (.ok [])) ⟨{}, [], []⟩).1 =
        .ok [airiPair "p1", usdtPair "p1" "0.003"] ∧
      ¬ ∃ row ∈ (refreshed (listingChain [crossedPair "p1" "0.003", airiPair "p1"] (.ok []))
        ⟨{}, [], []⟩).2.store.pairInfos, row.Describes (airiPair "p1") "AIRI/ORAI" := by
  have stale : (refreshed (listingChain [crossedPair "p1" "0.005"] (.ok []))
      ratedWorld).2.store.pairInfos = [PairRow.ofPair (usdtPair "p1" "0.003") "ORAI/USDT"] := by
    decide +kernel
  have shadowed : (refreshed (listingChain [crossedPair "p1" "0.003", airiPair "p1"] (.ok []))
      ⟨{}, [], []⟩).2.store.pairInfos =
        [PairRow.ofPair (usdtPair "p1" "0.003") "ORAI/USDT"] := by
    decide +kernel
  refine ⟨⟨by decide +kernel, ?_⟩, by decide +kernel, ?_⟩
  · rw [stale]
    rintro ⟨row, member, describes⟩
    obtain rfl := List.mem_singleton.mp member
    exact absurd describes.commissionRate (by decide)
  · rw [shadowed]
    rintro ⟨row, member, describes⟩
    obtain rfl := List.mem_singleton.mp member
    exact absurd describes.symbols (by decide)

end PoolIndexer.Indexer
