import Mathlib.Data.List.Forall2
import Mathlib.Data.List.Nodup
import PoolIndexer.Indexer
import PoolIndexer.Proofs.Json
import PoolIndexer.Proofs.KeyedRows

/-! The tracked pairs among listed ones, and the registry that keeps them by address. No two
mappings match one pair, so a pair's place in the tracked list is that of the only mapping that
matches it, and the pairs that are found come back in tracked order out of any order. -/
namespace PoolIndexer

namespace Mapping

/-- The assets of a pair have the denominations of the mapping, in either order. -/
def Matches (m : Mapping) (pair : Pair) : Prop :=
  pair.base.denom = m.base.denom ∧ pair.quote.denom = m.quote.denom ∨
    pair.base.denom = m.quote.denom ∧ pair.quote.denom = m.base.denom

instance (m : Mapping) (pair : Pair) : Decidable (m.Matches pair) :=
  inferInstanceAs (Decidable (_ ∨ _))

theorem matchesPair_iff {m : Mapping} {pair : Pair} : m.matchesPair pair ↔ m.Matches pair := by
  simp [matchesPair, Pair.trades, Matches]

theorem matchesPair_eq (m : Mapping) (pair : Pair) : m.matchesPair pair = decide (m.Matches pair) :=
  Bool.eq_iff_iff.mpr (matchesPair_iff.trans decide_eq_true_iff.symm)

/-- The last of listed pairs that the mapping matches. -/
def LastAmong (m : Mapping) (listed : List Pair) (pair : Pair) : Prop :=
  ∃ before after, listed = before ++ pair :: after ∧ m.Matches pair ∧
    ∀ later ∈ after, ¬ m.Matches later

theorem find?_reverse {m : Mapping} {listed : List Pair} {pair : Pair} :
    listed.reverse.find? m.matchesPair = some pair ↔ m.LastAmong listed pair := by
  rw [List.find?_eq_some_iff_append]
  constructor
  · rintro ⟨matched, after, before, split, unmatched⟩
    refine ⟨before.reverse, after.reverse, ?_, matchesPair_iff.mp matched, fun later member => ?_⟩
    · rw [← List.reverse_reverse listed, split]
      simp
    · simpa [matchesPair_eq] using unmatched later (List.mem_reverse.mp member)
  · rintro ⟨before, after, rfl, matched, unmatched⟩
    refine ⟨matchesPair_iff.mpr matched, after.reverse, before.reverse, by simp, ?_⟩
    intro later member
    simpa [matchesPair_eq] using unmatched later (List.mem_reverse.mp member)

end Mapping

/-! ## The tracked list -/

/-- Two mappings have the same denominations only if they are the same. -/
theorem tracked_apart : ∀ m ∈ tracked, ∀ m' ∈ tracked, m'.Matches (m.orient default) → m = m' := by
  decide +kernel

theorem tracked_nodup : tracked.Nodup := by decide +kernel

theorem Mapping.Matches.unique {m m' : Mapping} {pair : Pair} (matched : m.Matches pair)
    (matched' : m'.Matches pair) (member : m ∈ tracked) (member' : m' ∈ tracked) : m = m' := by
  refine tracked_apart m member m' member' ?_
  unfold Matches orient at *
  rcases matched with ⟨base, quote⟩ | ⟨base, quote⟩
  · rwa [base, quote] at matched'
  · rw [base, quote] at matched'
    exact matched'.symm.imp And.symm And.symm

/-- The place of a pair is that of the mapping that matches it. -/
theorem trackedIndex_iff {m : Mapping} {index : Nat} (there : tracked[index]? = some m)
    (pair : Pair) : trackedIndex pair = index ↔ m.Matches pair := by
  obtain ⟨inside, rfl⟩ := List.getElem?_eq_some_iff.mp there
  constructor
  · rintro rfl
    exact Mapping.matchesPair_iff.mp (List.findIdx_getElem (w := inside))
  · intro matched
    have found : trackedIndex pair < tracked.length :=
      List.findIdx_lt_length_of_exists
        ⟨_, List.getElem_mem inside, Mapping.matchesPair_iff.mpr matched⟩
    have first : tracked[trackedIndex pair].Matches pair :=
      Mapping.matchesPair_iff.mp (List.findIdx_getElem (w := found))
    have same := first.unique matched (List.getElem_mem found) (List.getElem_mem inside)
    exact (List.Nodup.getElem_inj_iff tracked_nodup).mp same

/-! ## Finding the tracked pairs -/

/-- What a mapping finds among listed pairs. -/
def Mapping.find? (m : Mapping) (listed : List Pair) : Option (Pair × String) :=
  (listed.reverse.find? m.matchesPair).map fun pair => (m.orient pair, m.symbols)

/-- Every mapping looks for itself. -/
theorem reconcile_eq (listed : List Pair) :
    reconcile listed = tracked.filterMap (·.find? listed) := by
  have each : ∀ entry ∈ tracked.zipIdx,
      (listed.reverse.find? (trackedIndex · == entry.2)).map
        (fun pair => (entry.1.orient pair, entry.1.symbols)) = entry.1.find? listed := by
    intro entry member
    have there : tracked[entry.2]? = some entry.1 := List.mem_zipIdx_iff_getElem?.mp member
    have same : (trackedIndex · == entry.2) = entry.1.matchesPair := by
      funext pair
      rw [Mapping.matchesPair_eq, Bool.eq_iff_iff, beq_iff_eq, decide_eq_true_iff]
      exact trackedIndex_iff there pair
    rw [same, Mapping.find?]
  unfold reconcile
  rw [List.filterMap_congr each, ← List.zipIdx_map_fst 0 tracked, List.filterMap_map,
    List.zipIdx_map_fst]
  rfl

/-- A mapping finds the last pair that it matches, with the assets of the mapping. -/
theorem found_forall₂ (listed : List Pair) (mappings : List Mapping) :
    List.Forall₂ (fun m entry => ∃ pair, m.LastAmong listed pair ∧
        entry = ({ pair with base := m.base, quote := m.quote }, m.symbols))
      (mappings.filter fun m => ∃ pair ∈ listed, m.Matches pair)
      (mappings.filterMap (·.find? listed)) := by
  induction mappings with
  | nil => exact .nil
  | cons m rest ih =>
    rcases found : listed.reverse.find? m.matchesPair with _ | pair
    · have absent : ¬ ∃ pair ∈ listed, m.Matches pair := by
        simpa [Mapping.matchesPair_eq] using found
      simpa [Mapping.find?, found, absent] using ih
    · have last := Mapping.find?_reverse.mp found
      have present : ∃ pair ∈ listed, m.Matches pair := by
        obtain ⟨before, after, rfl, matched, -⟩ := last
        exact ⟨pair, by simp, matched⟩
      rw [List.filter_cons_of_pos (by simpa using present),
        List.filterMap_cons_some (b := (m.orient pair, m.symbols)) (by simp [Mapping.find?, found])]
      exact .cons ⟨pair, last, rfl⟩ ih

/-- Pairs that no mapping matches make no difference. -/
theorem reconcile_filter (listed : List Pair) :
    reconcile (listed.filter fun pair => ∃ m ∈ tracked, m.Matches pair) = reconcile listed := by
  rw [reconcile_eq, reconcile_eq]
  refine List.filterMap_congr fun m member => ?_
  unfold Mapping.find?
  rw [← List.filter_reverse, List.find?_filter]
  congr 2
  funext pair
  by_cases matched : m.Matches pair
  · have some : ∃ m ∈ tracked, m.Matches pair := ⟨m, member, matched⟩
    simp [Mapping.matchesPair_eq, matched, some]
  · simp [Mapping.matchesPair_eq, matched]

/-! ## Tracked order -/

/-- The place of a pair that has the assets of a mapping is that of the mapping, whatever else the
pair is. -/
theorem tracked_ascending : tracked.Pairwise fun m m' =>
    ∀ pair pair', trackedIndex (m.orient pair) < trackedIndex (m'.orient pair') := by
  have ascending : tracked.Pairwise fun m m' =>
      trackedIndex (m.orient default) < trackedIndex (m'.orient default) := by decide +kernel
  exact ascending.imp fun before _ _ => before

theorem reconcile_ascending (listed : List Pair) :
    ((reconcile listed).map (·.1)).Pairwise (trackedIndex · < trackedIndex ·) := by
  rw [reconcile_eq, List.pairwise_map, List.pairwise_filterMap]
  refine tracked_ascending.imp fun before entry found entry' found' => ?_
  obtain ⟨pair, -, rfl⟩ := Option.map_eq_some_iff.mp found
  obtain ⟨pair', -, rfl⟩ := Option.map_eq_some_iff.mp found'
  exact before pair pair'

namespace Registry

theorem ofPairs_inKeyOrder (pairs : List Pair) : InKeyOrder Pair.address (ofPairs pairs) :=
  InKeyOrder.foldl ⟨List.Pairwise.nil, by simp⟩ pairs

theorem pairs_distinct (listed : List Pair) :
    ((pairs (ofPairs listed)).map (·.address)).Nodup := by
  have ordered := ofPairs_inKeyOrder listed
  have keys : ((ofPairs listed).map (·.2)).map (·.address) = (ofPairs listed).map (·.1) := by
    rw [List.map_map]
    exact List.map_congr_left ordered.own
  have distinct : ((ofPairs listed).map (·.1)).Nodup :=
    List.pairwise_map.mpr (ordered.sorted.imp String.ne_of_lt)
  rw [← keys] at distinct
  exact ((List.mergeSort_perm _ _).map _).nodup_iff.mpr distinct

/-- A registered pair is the one that is found at its address. -/
theorem findByAddress_pairs {listed : List Pair} {pair : Pair}
    (registered : pair ∈ pairs (ofPairs listed)) :
    findByAddress (pairs (ofPairs listed)) pair.address = some pair :=
  find?_of_distinct (pairs_distinct listed) registered

theorem ofPairs_perm {pairs : List Pair} (distinct : (pairs.map (·.address)).Nodup) :
    (ofPairs pairs).Perm (pairs.map fun pair => (pair.address, pair)) := by
  have inserted : ∀ entries : List (String × Pair),
      (∀ pair ∈ pairs, ∀ entry ∈ entries, entry.1 ≠ pair.address) →
      (pairs.foldl (fun m pair => Keyed.insert pair.address pair m) entries).Perm
        (pairs.map (fun pair => (pair.address, pair)) ++ entries) := by
    induction pairs with
    | nil => exact fun _ _ => .refl _
    | cons pair rest ih =>
      intro entries absent
      rw [List.map_cons, List.nodup_cons] at distinct
      obtain ⟨here, others⟩ := List.forall_mem_cons.mp absent
      have first : (Keyed.insert pair.address pair entries).Perm
          ((pair.address, pair) :: entries) := Keyed.upsert_perm here _
      refine (ih distinct.2 _ fun other member entry among => ?_).trans ?_
      · rcases List.mem_cons.mp (first.mem_iff.mp among) with rfl | old
        · exact fun same => distinct.1 (List.mem_map.mpr ⟨other, member, same.symm⟩)
        · exact others other member entry old
      · exact (first.append_left _).trans List.perm_middle
  simpa [ofPairs] using inserted [] (by simp)

/-- Pairs in tracked order are given back out of any order of their entries. -/
theorem pairs_of_perm {pairs : List Pair}
    (ascending : pairs.Pairwise (trackedIndex · < trackedIndex ·)) {entries : List (String × Pair)}
    (perm : entries.Perm (pairs.map fun pair => (pair.address, pair))) :
    Registry.pairs entries = pairs := by
  have same : (Registry.pairs entries).Perm pairs := by
    have values : (entries.map (·.2)).Perm pairs := by
      simpa [Function.comp_def] using perm.map (·.2)
    exact (List.mergeSort_perm _ _).trans values
  have sorted : (Registry.pairs entries).Pairwise (trackedIndex · ≤ trackedIndex ·) := by
    have sorts : (Registry.pairs entries).Pairwise
        (fun a b => decide (trackedIndex a ≤ trackedIndex b)) :=
      List.pairwise_mergeSort (by simpa using fun a b c => Nat.le_trans)
        (by simpa using fun a b => Nat.le_total _ _) _
    simpa only [decide_eq_true_eq] using sorts
  refine same.eq_of_pairwise (fun a b member member' below above => ?_) sorted
    (ascending.imp Nat.le_of_lt)
  have places : (pairs.map trackedIndex).Nodup :=
    (List.pairwise_map.mpr ascending).imp Nat.ne_of_lt
  exact List.inj_on_of_nodup_map places (same.mem_iff.mp member) member'
    (Nat.le_antisymm below above)

end Registry

/-! ## Stored pairs -/

namespace AssetInfo

theorem numberless_toJson (info : AssetInfo) : info.toJson.numberless = true := by
  cases info <;> rfl

theorem ofDocument?_toDocument (info : AssetInfo) (origin : Document.Origin) :
    ofDocument? origin info.toJson.toDocument = some info := by
  cases info <;> cases origin <;> rfl

/-- Every asset is read back from its text. -/
theorem asset?_compact (info : AssetInfo) : PairRow.asset? info.toJson.compact = some info := by
  rw [PairRow.asset?, Json.document?_compact info.numberless_toJson, Option.bind_some,
    ofDocument?_toDocument]

end AssetInfo

/-- The row tells what is known of a pair, and its symbols. -/
structure PairRow.Describes (row : PairRow) (pair : Pair) (symbols : String) : Prop where
  address : row.address = pair.address
  assets : row.assetInfos = .ok (pair.base, pair.quote)
  commissionRate : row.commissionRate = pair.commissionRate
  liquidityToken : row.liquidityToken = pair.liquidityToken
  oracle : row.oracle = pair.oracle
  symbols : row.symbols = symbols

theorem PairRow.ofPair_describes (pair : Pair) (symbols : String) :
    (ofPair pair symbols).Describes pair symbols where
  address := rfl
  assets := by simp only [assetInfos, ofPair, AssetInfo.asset?_compact]
  commissionRate := rfl
  liquidityToken := rfl
  oracle := rfl
  symbols := rfl

end PoolIndexer
