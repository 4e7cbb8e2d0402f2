import PoolIndexer.Proofs.Candle.Reading
import PoolIndexer.Proofs.Ledger
import PoolIndexer.Proofs.Table

/-! Candles do not depend on how swaps are cut into chunks: stored part by part or all at once,
they are read alike. -/
namespace PoolIndexer

/-! ## Candles that can be stored -/

namespace Binary64

theorem max_eq_or (x y : Binary64) : x.max y = x ∨ x.max y = y := by
  unfold max
  split
  · exact .inr rfl
  · split
    · exact .inl rfl
    · split
      · exact .inr rfl
      · exact .inl rfl

theorem min_eq_or (x y : Binary64) : x.min y = x ∨ x.min y = y := by
  unfold min
  split
  · exact .inr rfl
  · split
    · exact .inl rfl
    · split
      · exact .inr rfl
      · exact .inl rfl

end Binary64

namespace Candle

/-- The columns of its table take the candle: its prices are finite, its time and height fit. -/
structure Fits (c : Candle) : Prop where
  time : c.time < twoTo 63
  height : c.height < twoTo 63
  openPrice : c.openPrice.isFinite
  high : c.high.isFinite
  low : c.low.isFinite
  close : c.close.isFinite

theorem Fits.extend {c later : Candle} (fits : c.Fits) (fitsLater : later.Fits) :
    (c.extend later).Fits where
  time := fits.time
  height := fits.height
  openPrice := fits.openPrice
  high := by
    rcases Binary64.max_eq_or c.high later.high with same | same
    · exact (congrArg Binary64.isFinite same).trans fits.high
    · exact (congrArg Binary64.isFinite same).trans fitsLater.high
  low := by
    rcases Binary64.min_eq_or c.low later.low with same | same
    · exact (congrArg Binary64.isFinite same).trans fits.low
    · exact (congrArg Binary64.isFinite same).trans fitsLater.low
  close := fitsLater.close

theorem merged_fits {candles : List Candle} (fits : ∀ c ∈ candles, c.Fits) {whole : Candle}
    (comesTo : merged candles = some whole) : whole.Fits := by
  induction candles generalizing whole with
  | nil => cases comesTo
  | cons c rest ih =>
    have first := fits c List.mem_cons_self
    unfold merged at comesTo
    cases later : merged rest with
    | none =>
      simp only [later, Option.merge_none_right, Option.some.injEq] at comesTo
      rwa [← comesTo]
    | some l =>
      simp only [later, Option.merge_some_some, Option.some.injEq] at comesTo
      rw [← comesTo]
      exact first.extend (ih (fun d member => fits d (List.mem_cons_of_mem _ member)) later)

theorem validateRow_fits (c : Candle) (index : Nat) :
    (∃ cells, Candle.table.validateRow index c.toJson = .ok cells) ↔ c.Fits := by
  have row : c.toJson = .obj ((Candle.table.columns.map (·.name)).zip
      [.str c.key, .str c.pair, .int c.time, .int c.height, realJson c.openPrice, realJson c.high,
        realJson c.low, realJson c.close, amountJson c.volume]) := rfl
  rw [row, Table.validateRow_ok (by decide) rfl]
  simp only [Candle.table, List.zip_cons_cons, List.zip_nil_right, List.forall_mem_cons,
    ColumnType.accepts_text, ColumnType.accepts_int, ColumnType.accepts_real,
    ColumnType.accepts_amount]
  constructor
  · rintro ⟨_, _, time, height, openPrice, high, low, close, _⟩
    exact ⟨time, by exact_mod_cast height, openPrice, high, low, close⟩
  · rintro ⟨time, height, openPrice, high, low, close⟩
    exact ⟨trivial, trivial, time, by exact_mod_cast height, openPrice, high, low, close, trivial,
      by simp⟩

end Candle

/-! ## Writing candles -/

/-- A write of the candles of swaps and of nothing else. -/
def candleWrite (pairs : List Pair) (newHeight : Nat) (swaps : List Swap) : ChunkWrite :=
  { newHeight, candles := buildCandles swaps pairs }

/-- A batch is accepted when each of its records is, wherever it stands. -/
theorem ChunkWrite.batch_accepts {α : Type} [Record α] {P : α → Prop}
    (each : ∀ record index,
      (∃ cells, (Record.table α).validateRow index (Record.toJson record) = .ok cells) ↔ P record)
    (records : List α) : (∃ batch, ChunkWrite.batch records = .ok batch) ↔
      ∀ record ∈ records, P record := by
  rw [← Record.rows_ok each]
  unfold ChunkWrite.batch
  cases records with
  | nil => simp [Record.rows, Table.validate, pure, Except.pure]
  | cons first rest =>
    rw [Result.exists_bind_ok]
    constructor
    · rintro ⟨cells, checked, _⟩
      exact ⟨cells, checked⟩
    · rintro ⟨cells, checked⟩
      exact ⟨cells, checked, _, rfl⟩

theorem batch_candles {candles : List Candle} :
    (∃ batch, ChunkWrite.batch candles = .ok batch) ↔ ∀ c ∈ candles, c.Fits :=
  ChunkWrite.batch_accepts Candle.validateRow_fits candles

theorem validatedBatches_candleWrite (pairs : List Pair) (newHeight : Nat) (swaps : List Swap) :
    (candleWrite pairs newHeight swaps).validatedBatches =
      ChunkWrite.batch (buildCandles swaps pairs) := by
  unfold ChunkWrite.validatedBatches candleWrite
  cases ChunkWrite.batch (buildCandles swaps pairs) with
  | error e => rfl
  | ok batch => simp [ChunkWrite.batch, bind, Except.bind, pure, Except.pure]

/-- Such a write is accepted where its candles can be stored. -/
theorem commit_candleWrite (pairs : List Pair) (newHeight : Nat) (swaps : List Swap) (s : Store) :
    (∃ s', s.commit (candleWrite pairs newHeight swaps) = .ok s') ↔
      ∀ c ∈ buildCandles swaps pairs, c.Fits := by
  rw [← batch_candles]
  unfold Store.commit
  rw [validatedBatches_candleWrite]
  cases ChunkWrite.batch (buildCandles swaps pairs) with
  | error e => simp
  | ok batch => simp

/-- The candles of the parts, one part after the other. -/
def partCandles (pairs : List Pair) (parts : List (Nat × List Swap)) : List Candle :=
  parts.flatMap fun part => buildCandles part.2 pairs

/-- The swaps of the parts, one part after the other. -/
def partSwaps (parts : List (Nat × List Swap)) : List Swap := parts.flatMap (·.2)

/-- Writes the candles of parts one after the other, every part with its height. -/
def commitParts (pairs : List Pair) (s : Store) (parts : List (Nat × List Swap)) :
    Except StorageError Store :=
  parts.foldlM (fun s part => s.commit (candleWrite pairs part.1 part.2)) s

theorem commitParts_ok {pairs : List Pair} {parts : List (Nat × List Swap)} {s s' : Store}
    (committed : commitParts pairs s parts = .ok s') :
    s'.candles = s.candles ++ partCandles pairs parts ∧ ∀ c ∈ partCandles pairs parts, c.Fits := by
  induction parts generalizing s with
  | nil =>
    cases committed
    simp [partCandles]
  | cons part rest ih =>
    obtain ⟨next, written, others⟩ := Result.bind_ok.mp committed
    obtain ⟨stored, fits⟩ := ih others
    have appended := congrArg Ledger.candles (Store.commit_ledger written)
    simp only [partCandles, List.flatMap_cons] at stored fits ⊢
    refine ⟨?_, ?_⟩
    · rw [stored, ← List.append_assoc]
      exact congrArg (· ++ _) appended
    · intro c member
      rcases List.mem_append.mp member with first | later
      · exact (commit_candleWrite _ _ _ _).mp ⟨next, written⟩ c first
      · exact fits c later

/-! ## Cutting -/

namespace Candle

theorem merged_of_mem {candles : List Candle} (apart : Apart candles) {c : Candle}
    (member : c ∈ candles) : merged (candles.filter (isAt c.pair c.time)) = some c := by
  induction candles with
  | nil => cases member
  | cons first rest ih =>
    obtain ⟨others, within⟩ := List.pairwise_cons.mp apart
    by_cases here : first.isAt c.pair c.time
    · have alone : rest.filter (isAt c.pair c.time) = [] := by
        rw [List.filter_eq_nil_iff]
        intro d memberRest
        rw [isAt_iff] at here ⊢
        rintro ⟨pair, time⟩
        exact others d memberRest ⟨here.1.trans pair.symm, here.2.trans time.symm⟩
      rcases List.mem_cons.mp member with rfl | later
      · simp [here, alone, merged]
      · have absent : c ∈ rest.filter (isAt c.pair c.time) :=
          List.mem_filter.mpr ⟨later, isAt_iff.mpr ⟨rfl, rfl⟩⟩
        simp [alone] at absent
    · rcases List.mem_cons.mp member with rfl | later
      · exact absurd (isAt_iff.mpr ⟨rfl, rfl⟩) here
      · simpa [here] using ih within later

end Candle

/-- Every minute of a pair comes to the same, whether its swaps are cut into parts or not. -/
theorem merged_partCandles (pair : String) (time : Int) (pairs : List Pair)
    (parts : List (Nat × List Swap)) :
    Candle.merged ((partCandles pairs parts).filter (Candle.isAt pair time)) =
      Candle.merged ((buildCandles (partSwaps parts) pairs).filter (Candle.isAt pair time)) := by
  rw [merged_buildCandles]
  induction parts with
  | nil => rfl
  | cons part rest ih =>
    simp only [partCandles, partSwaps, swapCandles, List.flatMap_cons, List.filterMap_append,
      List.filter_append, Candle.merged_append, merged_buildCandles] at ih ⊢
    rw [ih]

/-- Swaps in the order of their heights. -/
def ByHeight (swaps : List Swap) : Prop := swaps.Pairwise (·.height ≤ ·.height)

theorem partCandles_inOrder {pairs : List Pair} {parts : List (Nat × List Swap)}
    (byHeight : ByHeight (partSwaps parts)) : Candle.InOrder (partCandles pairs parts) := by
  unfold ByHeight partSwaps at byHeight
  rw [List.pairwise_flatMap] at byHeight
  unfold Candle.InOrder partCandles
  rw [List.pairwise_flatMap]
  constructor
  · intro part _
    exact (buildCandles_apart part.2 pairs).imp fun apart meets => absurd meets apart
  · refine byHeight.2.imp fun {part later} below c member d memberLater _ => ?_
    obtain ⟨op, among, height⟩ := mem_buildCandles member
    obtain ⟨op', among', height'⟩ := mem_buildCandles memberLater
    rw [← height, ← height']
    exact below op among op' among'

theorem mem_partCandles {pairs : List Pair} {parts : List (Nat × List Swap)} {c : Candle}
    (member : c ∈ partCandles pairs parts) : ∃ op ∈ partSwaps parts, op.height = c.height := by
  obtain ⟨part, among, built⟩ := List.mem_flatMap.mp member
  obtain ⟨op, swap, height⟩ := mem_buildCandles built
  exact ⟨op, List.mem_flatMap.mpr ⟨part, among, swap⟩, height⟩

/-- Candles after stored ones that open no higher. -/
theorem stored_inOrder {stored candles : List Candle} {swaps : List Swap}
    (inOrder : Candle.InOrder stored) (inOrderLater : Candle.InOrder candles)
    (opened : ∀ c ∈ candles, ∃ op ∈ swaps, op.height = c.height)
    (earlier : ∀ c ∈ stored, ∀ op ∈ swaps, c.height ≤ op.height) :
    Candle.InOrder (stored ++ candles) := by
  refine List.pairwise_append.mpr ⟨inOrder, inOrderLater, ?_⟩
  intro c member d memberLater _
  obtain ⟨op, among, height⟩ := opened d memberLater
  rw [← height]
  exact earlier c member op among

/-- Swaps in the order of heights may be cut into parts at will. Where the candles of the parts
are accepted one part after the other, those of all the swaps at once are accepted too, and but
for heights all candles that can be read are the same. -/
theorem candlesIn_cut {pairs : List Pair} {parts : List (Nat × List Swap)} {s s' : Store}
    (newHeight : Nat) (byHeight : ByHeight (partSwaps parts))
    (inOrder : Candle.InOrder s.candles)
    (earlier : ∀ c ∈ s.candles, ∀ op ∈ partSwaps parts, c.height ≤ op.height)
    (committed : commitParts pairs s parts = .ok s') :
    ∃ whole, s.commit (candleWrite pairs newHeight (partSwaps parts)) = .ok whole ∧
      ∀ pair interval start stop,
        (s'.candlesIn pair interval start stop).map Candle.withoutHeight =
          (whole.candlesIn pair interval start stop).map Candle.withoutHeight := by
  obtain ⟨stored, fits⟩ := commitParts_ok committed
  have fitsWhole : ∀ c ∈ buildCandles (partSwaps parts) pairs, c.Fits := by
    intro c member
    have comesTo := Candle.merged_of_mem (buildCandles_apart _ _) member
    rw [← merged_partCandles] at comesTo
    exact Candle.merged_fits (fun d memberPart => fits d (List.mem_filter.mp memberPart).1) comesTo
  obtain ⟨whole, written⟩ := (commit_candleWrite pairs newHeight _ s).mpr fitsWhole
  refine ⟨whole, written, fun pair interval start stop => ?_⟩
  have storedWhole : whole.candles = s.candles ++ buildCandles (partSwaps parts) pairs :=
    congrArg Ledger.candles (Store.commit_ledger written)
  have wholeInOrder : Candle.InOrder (buildCandles (partSwaps parts) pairs) :=
    (buildCandles_apart _ _).imp fun apart meets => absurd meets apart
  unfold Store.candlesIn
  rw [stored, storedWhole]
  refine Candle.rebucket_withoutHeight
    (stored_inOrder inOrder (partCandles_inOrder byHeight) (fun c => mem_partCandles) earlier)
    (stored_inOrder inOrder wholeInOrder (fun c => mem_buildCandles) earlier) ?_ _ _ _
  intro time
  rw [List.filter_append, List.filter_append, Candle.merged_append, Candle.merged_append,
    merged_partCandles]

/-! Two swaps of one minute, cut into two parts. -/

def minutePair : Pair where
  base := .native "orai"
  quote := .native "usdt"
  address := "pair"
  liquidityToken := "lp"

def minuteSwap (height : Nat) (offer return_ : Int) : Swap where
  key := ""
  txHash := ""
  height := height
  time := 30
  pairAddress := "pair"
  sender := "alice"
  offerDenom := "orai"
  offerAmount := offer
  askDenom := "usdt"
  returnAmount := return_

def minuteParts : List (Nat × List Swap) :=
  [(10, [minuteSwap 7 100 300]), (20, [minuteSwap 12 200 500])]

theorem candlesIn_cut_minute : ∃ s' whole,
    commitParts [minutePair] {} minuteParts = .ok s' ∧
    Store.commit {} (candleWrite [minutePair] 20 (partSwaps minuteParts)) = .ok whole ∧
    s'.candles.length = 2 ∧ whole.candles.length = 1 ∧
    (s'.candlesIn "orai-usdt" 3600 0 100).map Candle.withoutHeight =
      (whole.candlesIn "orai-usdt" 3600 0 100).map Candle.withoutHeight := by
  have accepted : (commitParts [minutePair] {} minuteParts).toOption.isSome := by decide +kernel
  cases committed : commitParts [minutePair] {} minuteParts with
  | error e => simp [committed, Except.toOption] at accepted
  | ok s' =>
    have byHeight : ByHeight (partSwaps minuteParts) := by
      simp [ByHeight, partSwaps, minuteParts, minuteSwap]
    have inOrder : Candle.InOrder (Store.candles {}) := List.Pairwise.nil
    obtain ⟨whole, written, same⟩ := candlesIn_cut 20 byHeight inOrder (by simp) committed
    have stored := (commitParts_ok committed).1
    have storedWhole := congrArg Ledger.candles (Store.commit_ledger written)
    refine ⟨s', whole, rfl, written, ?_, ?_, same _ _ _ _⟩
    · rw [stored]
      decide +kernel
    · rw [show whole.candles = _ from storedWhole]
      decide +kernel

end PoolIndexer
