import PoolIndexer.Proofs.Record

/-! Rows of reserves. Their key tells the pair and the time, and what is read back from their
stored form is the row itself. -/
namespace PoolIndexer

namespace RowKey

theorem poolAmount_toList (time : Int) (pair : String) :
    (poolAmount time pair).toList = Numeral.ofInt time ++ '-' :: pair.toList := by
  simp [poolAmount, join, Numeral.text]

theorem poolAmount_inj {time time' : Int} {pair pair' : String} :
    poolAmount time pair = poolAmount time' pair' ↔ time = time' ∧ pair = pair' := by
  constructor
  · intro same
    have letters := congrArg String.toList same
    rw [poolAmount_toList, poolAmount_toList] at letters
    obtain ⟨times, pairs⟩ := Numeral.ofInt_append_inj letters
    exact ⟨times, String.toList_inj.mp pairs⟩
  · rintro ⟨rfl, rfl⟩
    rfl

end RowKey

namespace Document

theorem bounded?_int {low high n m : Int} (read : (int n).bounded? low high = some m) : m = n := by
  simp only [bounded?] at read
  split at read
  · exact (Option.some.inj read).symm
  · cases read

theorem int64?_int {n m : Int} (read : (int n).int64? = some m) : m = n := bounded?_int read

theorem word?_int {width n m : Nat} (read : (int n).word? width = some m) : m = n := by
  obtain ⟨whole, bounded, same⟩ := Option.map_eq_some_iff.mp read
  rw [← same, bounded?_int bounded, Int.toNat_natCast]

end Document

namespace PoolAmount

/-- The key of a row is that of its time and pair. -/
def Keyed (r : PoolAmount) : Prop := r.key = RowKey.poolAmount r.time r.pairAddress

theorem Keyed.key_eq_iff {r r' : PoolAmount} (keyed : r.Keyed) (keyed' : r'.Keyed) :
    r.key = r'.key ↔ r.time = r'.time ∧ r.pairAddress = r'.pairAddress := by
  rw [keyed, keyed', RowKey.poolAmount_inj]

/-! ## Stored rows are read back -/

theorem toJson_fields (r : PoolAmount) :
    r.toJson.toDocument.fields? (table.columns.map (·.name)) =
      some [some (.str (some r.key)), some (.str (some r.pairAddress)),
        some (amountJson r.base).toDocument, some (amountJson r.quote).toDocument,
        some (amountJson r.share).toDocument, some (.int r.height), some (.int r.time)] := rfl

theorem ofJson?_toJson {r r' : PoolAmount} (read : Record.ofJson? r.toJson = some r') : r' = r := by
  change ofDocument? r.toJson.toDocument = some r' at read
  unfold ofDocument? at read
  rw [toJson_fields] at read
  simp only [Document.amount?_amountJson, Document.text?, Option.pure_def, Option.bind_eq_bind,
    Option.bind_some] at read
  obtain ⟨height, counted, timing⟩ := Option.bind_eq_some_iff.mp read
  obtain ⟨time, timed, same⟩ := Option.bind_eq_some_iff.mp timing
  cases same
  rw [Document.word?_int counted, Document.int64?_int timed]

theorem faithful : Record.Faithful PoolAmount := ofJson?_toJson

theorem decode_toJson {rows rows' : List PoolAmount}
    (decoded : Batch.decode (rows.map Record.toJson) = .ok rows') : rows' = rows :=
  (Batch.decode_faithful faithful decoded).1

end PoolAmount
end PoolIndexer
