import PoolIndexer.Apr
import PoolIndexer.Candle
import PoolIndexer.Proofs.Table
import PoolIndexer.Store

/-! Records that are read from rows. The fields of a row are found by their names; what a record is
stored as is read back as the record itself. -/
namespace PoolIndexer

namespace Json

theorem toNamedDocuments_eq (fields : List (String × Json)) :
    toNamedDocuments fields = fields.map fun f => (some f.1, f.2.toDocument) := by
  induction fields with
  | nil => rfl
  | cons f rest ih => simp [toNamedDocuments, ih]

end Json

namespace Document

/-! ## Fields -/

theorem sole?_map {fields : List (String × Json)} (distinct : (fields.map (·.1)).Nodup)
    (name : String) :
    sole? (fields.map fun f => (f.1, f.2.toDocument)) name =
      some ((fields.lookup name).map Json.toDocument) := by
  induction fields with
  | nil => rfl
  | cons f rest ih =>
    obtain ⟨first, value⟩ := f
    obtain ⟨absent, distinct⟩ := List.nodup_cons.mp distinct
    by_cases here : name = first
    · subst here
      have none : (rest.map fun f => (f.1, f.2.toDocument)).filter (·.1 == name) = [] := by
        simp only [List.filter_eq_nil_iff, List.mem_map, beq_iff_eq]
        rintro _ ⟨other, among, rfl⟩ same
        exact absent (List.mem_map.mpr ⟨other, among, same⟩)
      simp [sole?, none]
    · have differs : (name == first) = false := by simpa using here
      simpa [sole?, Ne.symm here, List.lookup_cons, differs] using ih distinct

theorem fields?_obj {fields : List (String × Json)} (distinct : (fields.map (·.1)).Nodup)
    (names : List String) :
    (Json.obj fields).toDocument.fields? names =
      some (names.map fun name => (fields.lookup name).map Json.toDocument) := by
  have whole : (Json.toNamedDocuments fields).mapM (fun f => f.1.map fun name => (name, f.2)) =
      some (fields.map fun f => (f.1, f.2.toDocument)) := by
    rw [Json.toNamedDocuments_eq, List.mapM_map]
    exact List.mapM_pure
  have each : sole? (fields.map fun f => (f.1, f.2.toDocument)) =
      fun name => some ((fields.lookup name).map Json.toDocument) := funext (sole?_map distinct)
  simp only [Json.toDocument, fields?, named?, whole, Option.bind_eq_bind, Option.bind_some, each]
  exact List.mapM_pure

/-- A structure that has exactly the named fields, in order. -/
theorem fields?_own {fields : List (String × Json)} {names : List String}
    (named : fields.map (·.1) = names) (distinct : names.Nodup) :
    (Json.obj fields).toDocument.fields? names = some (fields.map fun f => some f.2.toDocument) := by
  subst named
  rw [fields?_obj distinct, List.map_map]
  congr 1
  apply List.map_congr_left
  intro f member
  simp [Table.lookup_of_mem distinct member]

/-! ## Values -/

@[simp] theorem text?_str (s : String) : (Json.str s).toDocument.text? = some s := rfl

@[simp] theorem amount?_amountJson (n : Int) : (amountJson n).toDocument.amount? = some n :=
  Numeral.integer?_text n

theorem word?_of_lt {n width : Nat} (small : n < twoTo width) :
    (Json.int n).toDocument.word? width = some n := by
  have bounds : (0 : Int) ≤ n ∧ (n : Int) ≤ twoTo width - 1 := by omega
  simp [word?, Json.toDocument, bounded?, bounds]

theorem int64?_of_lt {n : Int} (low : -twoTo 63 ≤ n) (high : n < twoTo 63) :
    (Json.int n).toDocument.int64? = some n := by
  have bounds : -(twoTo 63 : Int) ≤ n ∧ n ≤ twoTo 63 - 1 := by omega
  simp [int64?, Json.toDocument, bounded?, bounds]

theorem real?_realJson {x : Binary64} (finite : x.isFinite) :
    (realJson x).toDocument.real? = some x := by
  simp [realJson, finite, Json.toDocument, real?]

end Document

theorem LiquidityKind.ofDocument?_name (kind : LiquidityKind) :
    ofDocument? (Json.str kind.name).toDocument = some kind := by
  cases kind <;> rfl

/-! ## Records -/

/-- The record is what its stored form is read as. -/
def Record.ReadsBack {α : Type} [Record α] (r : α) : Prop := ofJson? (toJson r) = some r

/-- Nothing but the record itself is read from its stored form. -/
def Record.Faithful (α : Type) [Record α] : Prop :=
  ∀ {r r' : α}, ofJson? (toJson r) = some r' → r' = r

/-- Rows of a faithful kind that are decoded are what they were made of. -/
theorem Batch.decode_faithful {α : Type} [Record α] (faithful : Record.Faithful α)
    {records records' : List α} (decoded : decode (records.map Record.toJson) = .ok records') :
    records' = records ∧ ∀ r ∈ records, Record.ReadsBack r := by
  unfold decode at decoded
  split at decoded
  · rename_i read
    cases decoded
    induction records generalizing records' with
    | nil =>
      cases read
      exact ⟨rfl, by simp⟩
    | cons r rest ih =>
      rw [List.map_cons, List.mapM_cons] at read
      obtain ⟨first, readFirst, reading⟩ := Option.bind_eq_some_iff.mp read
      obtain ⟨others, readOthers, same⟩ := Option.bind_eq_some_iff.mp reading
      cases same
      obtain ⟨rfl, readBack⟩ := ih readOthers
      obtain rfl := faithful readFirst
      exact ⟨rfl, List.forall_mem_cons.mpr ⟨readFirst, readBack⟩⟩
  · cases decoded

/-- A height and a time that fit their words. -/
structure InWords (height : Nat) (time : Int) : Prop where
  height : height < twoTo 64
  low : -twoTo 63 ≤ time
  high : time < twoTo 63

theorem Swap.readsBack {op : Swap} (fits : InWords op.height op.time) : Record.ReadsBack op := by
  change ofDocument? op.toJson.toDocument = some op
  unfold ofDocument? toJson
  rw [Document.fields?_own]
  · simp [Document.word?_of_lt fits.height, Document.int64?_of_lt fits.low fits.high]
  · rfl
  · decide

theorem LiquidityChange.readsBack {op : LiquidityChange} (fits : InWords op.height op.time) :
    Record.ReadsBack op := by
  change ofDocument? op.toJson.toDocument = some op
  unfold ofDocument? toJson
  rw [Document.fields?_own]
  · simp [Document.word?_of_lt fits.height, Document.int64?_of_lt fits.low fits.high,
      LiquidityKind.ofDocument?_name]
  · rfl
  · decide

theorem Stake.readsBack {op : Stake} (fits : InWords op.height op.time) : Record.ReadsBack op := by
  change ofDocument? op.toJson.toDocument = some op
  unfold ofDocument? toJson
  rw [Document.fields?_own]
  · simp [Document.word?_of_lt fits.height, Document.int64?_of_lt fits.low fits.high]
  · rfl
  · decide

theorem Earning.readsBack {op : Earning} (fits : InWords op.height op.time) :
    Record.ReadsBack op := by
  change ofDocument? op.toJson.toDocument = some op
  unfold ofDocument? toJson
  rw [Document.fields?_own]
  · simp [Document.word?_of_lt fits.height, Document.int64?_of_lt fits.low fits.high]
  · rfl
  · decide

theorem PoolAmount.readsBack {r : PoolAmount} (fits : InWords r.height r.time) :
    Record.ReadsBack r := by
  change ofDocument? r.toJson.toDocument = some r
  unfold ofDocument? toJson
  rw [Document.fields?_own]
  · simp [Document.word?_of_lt fits.height, Document.int64?_of_lt fits.low fits.high]
  · rfl
  · decide

theorem Candle.readsBack {c : Candle} (fits : InWords c.height c.time)
    (openPrice : c.openPrice.isFinite) (high : c.high.isFinite) (low : c.low.isFinite)
    (close : c.close.isFinite) : Record.ReadsBack c := by
  change ofDocument? c.toJson.toDocument = some c
  unfold ofDocument? toJson
  rw [Document.fields?_own]
  · simp [Document.word?_of_lt fits.height, Document.int64?_of_lt fits.low fits.high,
      Document.real?_realJson openPrice, Document.real?_realJson high,
      Document.real?_realJson low, Document.real?_realJson close]
  · rfl
  · decide

theorem PoolApr.readsBack {r : PoolApr} (fits : InWords r.height r.time)
    (finite : r.apr.isFinite) : Record.ReadsBack r := by
  change ofDocument? r.toJson.toDocument = some r
  unfold ofDocument? toJson
  rw [Document.fields?_own]
  · simp [Document.word?_of_lt fits.height, Document.int64?_of_lt fits.low fits.high,
      Document.real?_realJson finite]
  · rfl
  · decide

end PoolIndexer
