import PoolIndexer.Proofs.Record
import PoolIndexer.Proofs.Registry
import PoolIndexer.Proofs.Result.Lists

/-! Assets come back from the JSON text that they are stored as, whatever characters their names
have and however large their amounts are: those of a pair's row, the rewards of a yield's row, and
the reserves of a pool. -/
namespace PoolIndexer

/-! ## Assets -/

/-- The amount of an asset is written as text, so that there is no number in it. -/
theorem numberless_amountJson (n : Int) : (amountJson n).numberless = true := rfl

namespace Asset

theorem numberless_toJson (asset : Asset) : asset.toJson.numberless = true := by
  simp [toJson, Json.numberless, Json.fieldsNumberless, asset.info.numberless_toJson,
    numberless_amountJson]

theorem ofDocument?_toDocument (asset : Asset) (origin : Document.Origin) :
    ofDocument? origin asset.toJson.toDocument = some asset := by
  unfold ofDocument? toJson
  rw [Document.fields?_own]
  · simp [asset.info.ofDocument?_toDocument]
  · rfl
  · decide

/-- The assets that a text lists. -/
def listOfText? (text : String) : Option (List Asset) :=
  (Json.document? text).bind (·.list? (ofDocument? .text))

/-- The text of a list of assets, as it is stored. -/
def listText (assets : List Asset) : String := (Json.arr (assets.map toJson)).compact

theorem numberless_list (assets : List Asset) :
    (Json.arr (assets.map toJson)).numberless = true :=
  Json.itemsNumberless_map numberless_toJson assets

theorem list?_toDocument (assets : List Asset) (origin : Document.Origin) :
    (Json.arr (assets.map toJson)).toDocument.list? (ofDocument? origin) = some assets :=
  Json.list?_toDocument (ofDocument?_toDocument · origin) assets

theorem listOfText?_listText (assets : List Asset) :
    listOfText? (listText assets) = some assets := by
  rw [listOfText?, listText, Json.document?_compact (numberless_list assets), Option.bind_some,
    list?_toDocument]

end Asset

/-! ## Pools -/

namespace Pool

/-- The pool that a text describes. -/
def ofText? (text : String) : Option Pool :=
  (Json.document? text).bind (ofDocument? .text)

theorem numberless_toJson (pool : Pool) : pool.toJson.numberless = true := by
  simp [toJson, Json.numberless, Json.fieldsNumberless, numberless_amountJson,
    Json.itemsNumberless_map Asset.numberless_toJson]

theorem ofDocument?_toDocument (pool : Pool) (origin : Document.Origin) :
    ofDocument? origin pool.toJson.toDocument = some pool := by
  unfold ofDocument? toJson
  rw [Document.fields?_own]
  · simp [Asset.list?_toDocument]
  · rfl
  · decide

theorem ofText?_compact (pool : Pool) : ofText? pool.toJson.compact = some pool := by
  rw [ofText?, Json.document?_compact pool.numberless_toJson, Option.bind_some,
    ofDocument?_toDocument]

end Pool

/-! ## Rows -/

/-- The rewards of a yield's row are those that it is computed from. -/
theorem AprInput.row_rewards {input : AprInput} {pools : Snapshot} {book : PriceBook}
    {height : Nat} {time : Int} : Result.Yields
      (fun row : PoolApr => row.rewards = Asset.listText input.rewardsPerSecond)
      (input.row pools book height time) :=
  Result.yields_bind fun _ => Result.yields_ok rfl

theorem aprRows_rewards {inputs : List AprInput} {pools : Snapshot} {book : PriceBook}
    {height : Nat} {time : Int} {rows : List PoolApr}
    (made : aprRows inputs pools book height time = .ok rows) :
    List.Forall₂ (fun input row => Asset.listOfText? row.rewards = some input.rewardsPerSecond)
      inputs rows := by
  refine (Result.mapM_iff.mp made).imp fun input row done => ?_
  rw [AprInput.row_rewards done, Asset.listOfText?_listText]

/-- Whatever is stored as the text of assets is read back: the assets of a pair from its row, lists
of assets and pools from their texts, and from each row of yields the rewards of its input. -/
theorem storedAssets_decode :
    (∀ (pair : Pair) (symbols : String),
      (PairRow.ofPair pair symbols).assetInfos = .ok (pair.base, pair.quote)) ∧
    (∀ assets : List Asset, Asset.listOfText? (Asset.listText assets) = some assets) ∧
    (∀ pool : Pool, Pool.ofText? pool.toJson.compact = some pool) ∧
    ∀ (inputs : List AprInput) (pools : Snapshot) (book : PriceBook) (height : Nat) (time : Int)
      (rows : List PoolApr), aprRows inputs pools book height time = .ok rows →
      List.Forall₂ (fun input row => Asset.listOfText? row.rewards = some input.rewardsPerSecond)
        inputs rows :=
  ⟨fun pair symbols => (PairRow.ofPair_describes pair symbols).assets,
    Asset.listOfText?_listText, Pool.ofText?_compact, fun _ _ _ _ _ _ => aprRows_rewards⟩

/-- A pair whose assets have quotes, backslashes, controls and characters beyond the basic plane in
their names. -/
def escapedPair : Pair where
  base := .native "\"\\\n\x01"
  quote := .token "\x7f\u2028😀"
  address := "\""
  liquidityToken := ""

/-- No supply, and rewards beyond any word. -/
def escapedInput : AprInput :=
  ⟨escapedPair, 0, 0, [⟨escapedPair.base, -tenTo 40⟩, ⟨escapedPair.quote, tenTo 40⟩]⟩

theorem storedAssets_decode_escaped : ∃ row,
    aprRows [escapedInput] ⟨0, []⟩ ⟨"usdt", "orai", .zero, []⟩ 1 2 = .ok [row] ∧
      Asset.listOfText? row.rewards = some escapedInput.rewardsPerSecond := by
  obtain ⟨row, made⟩ :
      ∃ row, aprRows [escapedInput] ⟨0, []⟩ ⟨"usdt", "orai", .zero, []⟩ 1 2 = .ok [row] := ⟨_, rfl⟩
  obtain ⟨rewards, -⟩ := List.forall₂_cons.mp (storedAssets_decode.2.2.2 _ _ _ _ _ _ made)
  exact ⟨row, made, rewards⟩

end PoolIndexer
