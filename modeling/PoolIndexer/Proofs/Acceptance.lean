import PoolIndexer.Proofs.History
import PoolIndexer.Proofs.Record
import PoolIndexer.Proofs.Sql.Committing

/-! Which rows a store takes. The check of a batch converts: a number may come as text, and text as
a number. A server is sent whatever passes the check. The store in memory reads records from the
rows themselves, and takes only values that need no conversion. -/
namespace PoolIndexer

/-! ## Reading the columns of a record -/

/-- What a record has in a column can be read from a document. -/
def Column.reads (column : Column) (d : Document) : Bool :=
  match column.type with
  | .text => if column.name = "op_type" then (LiquidityKind.ofDocument? d).isSome else d.text?.isSome
  | .numeric => d.amount?.isSome
  | .bigint => if column.name = "timestamp" then d.int64?.isSome else (d.word? 64).isSome
  | .double => d.real?.isSome

/-- A record can be read where each of its columns can. -/
def Record.ByColumn (α : Type) [Record α] : Prop := ∀ (d : Document) (value : Column → Document),
  d.fields? ((table α).columns.map (·.name)) = some ((table α).columns.map fun c => some (value c)) →
    (ofDocument? d : Option α).isSome = (table α).columns.all fun c => c.reads (value c)

theorem any_const {α : Type} (x : Option α) (b : Bool) : x.any (fun _ => b) = (x.isSome && b) := by
  cases x <;> simp

theorem isSome_bind {α β : Type} (x : Option α) (f : α → Option β) :
    (x >>= f).isSome = x.any fun a => (f a).isSome := Option.isSome_bind x f

theorem Swap.byColumn : Record.ByColumn Swap := by
  intro d value fields
  simp only [Record.table, table, List.map_cons, List.map_nil] at fields
  simp only [Record.ofDocument?, ofDocument?, table, List.map_cons, List.map_nil, fields]
  simp only [isSome_bind, Option.pure_def, Option.isSome_some, any_const, Record.table, table,
    Column.reads, String.reduceEq, ↓reduceIte, List.all_cons, List.all_nil, Bool.and_true]

theorem LiquidityChange.byColumn : Record.ByColumn LiquidityChange := by
  intro d value fields
  simp only [Record.table, table, List.map_cons, List.map_nil] at fields
  simp only [Record.ofDocument?, ofDocument?, table, List.map_cons, List.map_nil, fields]
  simp only [isSome_bind, Option.pure_def, Option.isSome_some, any_const, Record.table, table,
    Column.reads, String.reduceEq, ↓reduceIte, List.all_cons, List.all_nil, Bool.and_true]

theorem Candle.byColumn : Record.ByColumn Candle := by
  intro d value fields
  simp only [Record.table, table, List.map_cons, List.map_nil] at fields
  simp only [Record.ofDocument?, ofDocument?, table, List.map_cons, List.map_nil, fields]
  simp only [isSome_bind, Option.pure_def, Option.isSome_some, any_const, Record.table, table,
    Column.reads, String.reduceEq, ↓reduceIte, List.all_cons, List.all_nil, Bool.and_true]

theorem Stake.byColumn : Record.ByColumn Stake := by
  intro d value fields
  simp only [Record.table, table, List.map_cons, List.map_nil] at fields
  simp only [Record.ofDocument?, ofDocument?, table, List.map_cons, List.map_nil, fields]
  simp only [isSome_bind, Option.pure_def, Option.isSome_some, any_const, Record.table, table,
    Column.reads, String.reduceEq, ↓reduceIte, List.all_cons, List.all_nil, Bool.and_true]

theorem Earning.byColumn : Record.ByColumn Earning := by
  intro d value fields
  simp only [Record.table, table, List.map_cons, List.map_nil] at fields
  simp only [Record.ofDocument?, ofDocument?, table, List.map_cons, List.map_nil, fields]
  simp only [isSome_bind, Option.pure_def, Option.isSome_some, any_const, Record.table, table,
    Column.reads, String.reduceEq, ↓reduceIte, List.all_cons, List.all_nil, Bool.and_true]

theorem PoolAmount.byColumn : Record.ByColumn PoolAmount := by
  intro d value fields
  simp only [Record.table, table, List.map_cons, List.map_nil] at fields
  simp only [Record.ofDocument?, ofDocument?, table, List.map_cons, List.map_nil, fields]
  simp only [isSome_bind, Option.pure_def, Option.isSome_some, any_const, Record.table, table,
    Column.reads, String.reduceEq, ↓reduceIte, List.all_cons, List.all_nil, Bool.and_true]

theorem PoolApr.byColumn : Record.ByColumn PoolApr := by
  intro d value fields
  simp only [Record.table, table, List.map_cons, List.map_nil] at fields
  simp only [Record.ofDocument?, ofDocument?, table, List.map_cons, List.map_nil, fields]
  simp only [isSome_bind, Option.pure_def, Option.isSome_some, any_const, Record.table, table,
    Column.reads, String.reduceEq, ↓reduceIte, List.all_cons, List.all_nil, Bool.and_true]

theorem PairRow.byColumn : Record.ByColumn PairRow := by
  intro d value fields
  simp only [Record.table, table, List.map_cons, List.map_nil] at fields
  simp only [Record.ofDocument?, ofDocument?, table, List.map_cons, List.map_nil, fields]
  simp only [isSome_bind, Option.pure_def, Option.isSome_some, any_const, Record.table, table,
    Column.reads, String.reduceEq, ↓reduceIte, List.all_cons, List.all_nil, Bool.and_true]

/-! ## Values that need no conversion -/

/-- The value is of the column's own kind: text for text, and a number where it is no amount. A
change of liquidity is one of two kinds, and no height is negative. -/
def Column.native (column : Column) (value : Json) : Bool :=
  match column.type, value with
  | .text, .str s => column.name != "op_type" || s == "provide" || s == "withdraw"
  | .numeric, _ => true
  | .bigint, .int n => decide ((if column.name = "timestamp" then -(twoTo 63 : Int) else 0) ≤ n)
  | .double, .int _ => true
  | .double, .real _ => true
  | _, _ => false

/-- Every column finds such a value in the row, or none. -/
def Table.native (table : Table) (row : Json) : Bool :=
  table.columns.all fun column => (row.get? column.name).all column.native

theorem LiquidityKind.isSome_ofDocument?_str (s : String) :
    (ofDocument? (.str (some s))).isSome = (s == "provide" || s == "withdraw") := by
  by_cases provide : s = "provide"
  · simp [provide, ofDocument?]
  · by_cases withdraw : s = "withdraw"
    · simp [withdraw, ofDocument?]
    · simp [provide, withdraw, ofDocument?]

namespace Document

theorem isSome_int64?_int {n : Int} (high : n < twoTo 63) :
    (int n).int64?.isSome = decide (-(twoTo 63 : Int) ≤ n) := by
  have bound : n ≤ twoTo 63 - 1 := by omega
  apply Bool.eq_iff_iff.mpr
  simp [int64?, bounded?, bound]

theorem isSome_word?_int {n : Int} (high : n < twoTo 63) :
    ((int n).word? 64).isSome = decide (0 ≤ n) := by
  have larger : (twoTo 63 : Int) ≤ twoTo 64 := by decide
  have bound : n ≤ twoTo 64 - 1 := by omega
  apply Bool.eq_iff_iff.mpr
  simp [word?, bounded?, bound]

end Document

/-- Of the values that a column takes, those can be read that need no conversion. -/
theorem Column.reads_native {column : Column} {value : Json}
    (accepted : column.type.Accepts value) :
    column.reads value.toDocument = column.native value := by
  obtain ⟨name, type⟩ := column
  have ⟨present, cell, converted⟩ := accepted
  cases type with
  | text =>
    cases value with
    | str s =>
      by_cases kind : name = "op_type"
      · simp [reads, native, kind, Json.toDocument, LiquidityKind.isSome_ofDocument?_str]
      · simp [reads, native, kind, Json.toDocument, Document.text?]
    | bool | int | real =>
      simp [reads, native, Json.toDocument, Document.text?, LiquidityKind.ofDocument?]
    | null | arr | obj => cases converted
  | numeric =>
    cases value with
    | str s =>
      obtain ⟨n, parsed, -⟩ := Option.map_eq_some_iff.mp converted
      simp [reads, native, Json.toDocument, Document.amount?, parsed]
    | int n => rfl
    | null | bool | real | arr | obj => cases converted
  | bigint =>
    cases value with
    | int n =>
      have high : n < twoTo 63 := (ColumnType.accepts_int n).mp accepted
      by_cases time : name = "timestamp"
      · simp [reads, native, time, Json.toDocument, Document.isSome_int64?_int high]
      · simp [reads, native, time, Json.toDocument, Document.isSome_word?_int high]
    | str s =>
      simp [reads, native, Json.toDocument, Document.int64?, Document.word?, Document.bounded?]
    | null | bool | real | arr | obj => cases converted
  | double =>
    cases value with
    | int | real | str => rfl
    | null | bool | arr | obj => cases converted

/-- No name stands twice in the object. -/
def Json.NamedOnce : Json → Prop
  | .obj fields => (fields.map (·.1)).Nodup
  | _ => True

section

variable {α : Type} [Record α]

/-- Of the rows that pass the check, those are records that need no conversion. -/
theorem Record.isSome_ofJson? (byColumn : Record.ByColumn α) {row : Json}
    (once : row.NamedOnce) (takes : (table α).Takes row) :
    (ofJson? row : Option α).isSome = (table α).native row := by
  obtain ⟨⟨fields, rfl⟩, columns⟩ := takes
  let value (column : Column) : Json := (fields.lookup column.name).getD .null
  have found : ∀ column ∈ (table α).columns, fields.lookup column.name = some (value column) ∧
      column.type.Accepts (value column) := by
    intro column member
    obtain ⟨v, here, accepted⟩ := columns column member
    have here : fields.lookup column.name = some v := here
    simpa [value, here] using accepted
  have read : (Json.obj fields).toDocument.fields? ((table α).columns.map (·.name)) =
      some ((table α).columns.map fun column => some (value column).toDocument) := by
    rw [Document.fields?_obj once, List.map_map]
    congr 1
    apply List.map_congr_left
    intro column member
    simp [(found column member).1]
  unfold ofJson? Table.native
  rw [byColumn _ _ read]
  apply Bool.eq_iff_iff.mpr
  simp only [List.all_eq_true]
  apply forall₂_congr
  intro column member
  obtain ⟨here, accepted⟩ := found column member
  rw [Column.reads_native accepted]
  simp [Json.get?, here]

theorem isSome_mapM {β γ : Type} (f : β → Option γ) (l : List β) :
    (l.mapM f).isSome = l.all fun a => (f a).isSome := by
  induction l with
  | nil => rfl
  | cons a rest ih => simp [Option.isSome_bind, any_const, ih]

/-- Rows of a kind that pass the check are read if no value in them needs to be converted, and else
none of them is. -/
theorem Batch.Kind.ofRows_native {make : List α → Batch} (kind : Kind make)
    (byColumn : Record.ByColumn α) {rows : List Json} (once : ∀ row ∈ rows, row.NamedOnce)
    (takes : ∀ row ∈ rows, (Record.table α).Takes row) :
    (rows.all (Record.table α).native = true →
      ∃ batch, Batch.ofRows (Record.table α) rows = .ok batch) ∧
    (rows.all (Record.table α).native = false →
      Batch.ofRows (Record.table α) rows = .error .undecodable) := by
  have each : (rows.mapM (Record.ofJson? (α := α))).isSome =
      rows.all (Record.table α).native := by
    rw [isSome_mapM]
    apply Bool.eq_iff_iff.mpr
    simp only [List.all_eq_true]
    apply forall₂_congr
    intro row member
    rw [Record.isSome_ofJson? byColumn (once row member) (takes row member)]
  rw [kind.ofRows, decode, ← each]
  cases rows.mapM (Record.ofJson? (α := α)) with
  | none => simp [Except.map]
  | some records => simp [Except.map]

end

/-- The same for every table that a store knows. -/
theorem Batch.ofRows_native {table : Table} (known : table ∈ allTables) {rows : List Json}
    (once : ∀ row ∈ rows, row.NamedOnce) (takes : ∀ row ∈ rows, table.Takes row) :
    (rows.all table.native = true → ∃ batch, Batch.ofRows table rows = .ok batch) ∧
    (rows.all table.native = false → Batch.ofRows table rows = .error .undecodable) := by
  simp only [allTables, List.mem_cons, List.not_mem_nil, or_false] at known
  rcases known with rfl | rfl | rfl | rfl | rfl | rfl | rfl | rfl
  · exact swaps_kind.ofRows_native Swap.byColumn once takes
  · exact changes_kind.ofRows_native LiquidityChange.byColumn once takes
  · exact candles_kind.ofRows_native Candle.byColumn once takes
  · exact stakes_kind.ofRows_native Stake.byColumn once takes
  · exact earnings_kind.ofRows_native Earning.byColumn once takes
  · exact poolAmounts_kind.ofRows_native PoolAmount.byColumn once takes
  · exact poolAprs_kind.ofRows_native PoolApr.byColumn once takes
  · exact pairs_kind.ofRows_native PairRow.byColumn once takes

/-! ## Both stores -/

namespace Sql.Server

variable {σ : Type} (server : Server σ)

theorem transact_error {statements : List Statement} {commitError e : StorageError} {s s' : σ}
    (failed : server.transact commitError statements s = (.error e, s')) :
    e = commitError ∨ e = .statement := by
  obtain ⟨messages, transacted, -⟩ := server.recorded_transact failed []
  cases transacted with
  | refused => exact .inl rfl
  | givenUp => exact .inr rfl

/-- A server refuses what does not pass the check, and nothing else. -/
theorem insert_refused (table : Table) (rows : List Json) (s : σ) (fault : ValidationError) :
    (server.insert table rows s).1 = .error (.refused fault) ↔
      table.validate rows = .error fault := by
  unfold insert
  cases table.validate rows with
  | error e => simp [Session.fail]
  | ok checked =>
    cases checked with
    | nil => simp [pure, Session.pure]
    | cons first rest =>
      simp only [reduceCtorEq, iff_false]
      rw [acquire_bind]
      rcases server.connect s with ⟨_ | _, u⟩
      · simp
      · change (Session.bind (server.transact _ _) _ u).1 ≠ _
        unfold Session.bind
        rcases transacted : server.transact .statement (insertStatements table (first :: rest)) u
          with ⟨e | done, v⟩
        · rcases server.transact_error transacted with rfl | rfl <;> simp
        · simp [pure, Session.pure]

end Sql.Server

/-- A store in memory takes rows of a table that pass the check and in which no value needs to be
converted. Others that pass the check it does not take, and stays as it was; a server refuses what
does not pass the check and nothing else. -/
theorem insert_accepts {table : Table} (known : table ∈ allTables) {rows : List Json}
    (once : ∀ row ∈ rows, row.NamedOnce) :
    (∀ s : Store, (Store.backend.insert table rows s).1.isOk = true ↔
      (table.validate rows).isOk = true ∧ ∀ row ∈ rows, table.native row = true) ∧
    (∀ s : Store, (table.validate rows).isOk = true → (∃ row ∈ rows, table.native row = false) →
      Store.backend.insert table rows s = (.error .undecodable, s)) ∧
    ∀ {σ : Type} (server : Sql.Server σ) (script : Option String) (t : σ) (fault : ValidationError),
      ((server.backend script).insert table rows t).1 = .error (.refused fault) ↔
        table.validate rows = .error fault := by
  have decided : ∀ {cells}, table.validate rows = .ok cells →
      (rows.all table.native = true → ∃ batch, Batch.ofRows table rows = .ok batch) ∧
      (rows.all table.native = false → Batch.ofRows table rows = .error .undecodable) :=
    fun checked => Batch.ofRows_native known once ((table.validate_takes rows).mp ⟨_, checked⟩)
  refine ⟨fun s => ?_, fun s passes converted => ?_, fun server _ t =>
    server.insert_refused table rows t⟩
  · have change : (Store.backend.insert table rows s).1.isOk = (s.insert table rows).isOk :=
      Action.isOk_change _ s
    rw [change, Result.isOk_iff, s.insert_fits, Call.Fits, Result.isOk_iff, ← List.all_eq_true]
    apply and_congr_right
    rintro ⟨cells, checked⟩
    obtain ⟨read, unread⟩ := decided checked
    cases native : rows.all table.native with
    | true => simpa using read native
    | false => simp [unread native]
  · obtain ⟨cells, checked⟩ := Result.isOk_iff.mp passes
    have unread := (decided checked).2 (by simpa using converted)
    simp [Store.backend, Action.change, Store.insert, checked, unread, bind, Except.bind]

/-! A stake whose height is a number, and the same with its height as text. -/

def stakeAt (height : Json) : Json := .obj
  [("unique_key", .str "1-A-alice-lp-5"), ("txhash", .str "A"), ("txheight", height),
   ("timestamp", .int 1), ("staker_address", .str "alice"), ("staking_asset_denom", .str "lp"),
   ("stake_amount", .str "5"), ("stake_amount_in_usdt", .str "0")]

theorem stakeAt_once {height : Json} : ∀ row ∈ [stakeAt height], row.NamedOnce := by
  simp [stakeAt, Json.NamedOnce]

theorem insert_accepts_stake :
    Stake.table ∈ allTables ∧ (∀ row ∈ [stakeAt (.int 150), stakeAt (.str "150")], row.NamedOnce) ∧
    ∀ s : Store, (Store.backend.insert Stake.table [stakeAt (.int 150)] s).1.isOk = true ∧
      Store.backend.insert Stake.table [stakeAt (.str "150")] s = (.error .undecodable, s) := by
  have known : Stake.table ∈ allTables := by decide
  refine ⟨known, by simp [stakeAt, Json.NamedOnce], fun s => ⟨?_, ?_⟩⟩
  · exact ((insert_accepts known stakeAt_once).1 s).mpr ⟨by decide +kernel, by decide +kernel⟩
  · exact (insert_accepts known stakeAt_once).2.1 s (by decide +kernel) (by decide +kernel)

/-- The check accepts a height as text, and a server takes it; the store in memory does not. -/
theorem text_height_undecodable :
    (Stake.table.validate [stakeAt (.str "150")]).isOk = true ∧
    (Sql.ScriptedServer.server.insert Stake.table [stakeAt (.str "150")] {}).1.isOk = true ∧
    (Store.backend.insert Stake.table [stakeAt (.str "150")] {}).1.isOk = false := by
  decide +kernel

end PoolIndexer
