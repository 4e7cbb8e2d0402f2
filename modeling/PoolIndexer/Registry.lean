import PoolIndexer.Json.Reader
import PoolIndexer.Pair
import PoolIndexer.Table

/-!
The pairs that are tracked, and how they are found among the pairs that factories list.
-/
namespace PoolIndexer

/-- A tracked pair by its assets, base before quote, and by its ticker symbols. -/
structure Mapping where
  base : AssetInfo
  quote : AssetInfo
  symbols : String
  deriving DecidableEq, Repr

namespace Mapping

/-- A pair has the two assets of the mapping, in either order. -/
def matchesPair (m : Mapping) (pair : Pair) : Bool := pair.trades m.base.denom m.quote.denom

/-- A pair with its assets put into the order of the mapping. -/
def orient (m : Mapping) (pair : Pair) : Pair := { pair with base := m.base, quote := m.quote }

end Mapping

def hubDenom : String := "orai"

def usdtContract : String := "orai12hzjxfh77wl572gdzct2fxv2arxcwh6gykc7qh"

def atomDenom : String := "ibc/A2E2EEC9057A4A1C2C0A6A4C78B0239118DF5F278830F50B4A6BDD7A66506B78"

/-- The tracked pairs, in the order in which everything lists them. -/
def tracked : List Mapping :=
  let hub := AssetInfo.native hubDenom
  let usdt := AssetInfo.token usdtContract
  let atom := AssetInfo.native atomDenom
  let osmo := AssetInfo.native
    "ibc/9C4DCD21B48231D0BC2AC3D1B74A864746B37E4292694C93C617324250D002FC"
  [⟨.token "orai10ldgzued6zjp0mkqwsv2mux3ml50l97c74x8sg", hub, "AIRI/ORAI"⟩,
   ⟨.token "orai1lus0f0rhx8s03gdllx2n6vhkmf0536dv57wfge", hub, "ORAIX/ORAI"⟩,
   ⟨.token "orai1065qe48g7aemju045aeyprflytemx7kecxkf5m7u5h5mphd0qlcs47pclp", hub, "scORAI/ORAI"⟩,
   ⟨hub, atom, "ORAI/ATOM"⟩,
   ⟨hub, usdt, "ORAI/USDT"⟩,
   ⟨.token "orai1nd4r053e3kgedgld2ymen8l9yrw8xpjyaal7j5", hub, "KWT/ORAI"⟩,
   ⟨hub, osmo, "ORAI/OSMO"⟩,
   ⟨.token "orai1gzvndtzceqwfymu2kqhta2jn6gmzxvzqwdgvjw", usdt, "MILKY/USDT"⟩,
   ⟨hub, .token "orai15un8msx3n5zf9ahlxmfeqd2kwa5wm0nrpxer304m9nd5q6qq0g6sku5pdd", "ORAI/USDC"⟩,
   ⟨hub, .token "orai1c7tpjenafvgjtgm9aqwm7afnke6c56hpdms8jc6md40xs3ugd0es5encn0", "ORAI/WTRX"⟩,
   ⟨.token "orai19q4qak2g3cj2xc2y3060t0quzn3gfhzx08rjlrdd3vqxhjtat0cq668phq", atom, "scATOM/ATOM"⟩]

/-- The place of a pair's mapping in the tracked list; pairs that are not tracked come last. -/
def trackedIndex (pair : Pair) : Nat := tracked.findIdx (·.matchesPair pair)

/-- The tracked pairs among listed ones, in tracked order: of several pairs with the assets of one
mapping the last one counts, with its assets in the order of the mapping. -/
def reconcile (listed : List Pair) : List (Pair × String) :=
  tracked.zipIdx.filterMap fun (mapping, index) =>
    (listed.reverse.find? (trackedIndex · == index)).map fun pair =>
      (mapping.orient pair, mapping.symbols)

/-! ## Stored pairs -/

/-- A pair as it is stored: its assets are kept as JSON texts. -/
structure PairRow where
  address : String
  firstAsset : String
  secondAsset : String
  commissionRate : String
  liquidityToken : String
  oracle : String
  symbols : String
  deriving DecidableEq, Repr, Inhabited

namespace PairRow

def table : Table where
  name := "pair_infos"
  columns := [⟨"pair_addr", .text⟩, ⟨"first_asset_info", .text⟩, ⟨"second_asset_info", .text⟩,
    ⟨"commission_rate", .text⟩, ⟨"liquidity_addr", .text⟩, ⟨"oracle_addr", .text⟩,
    ⟨"symbols", .text⟩]
  mode := .replace "pair_addr"

def toJson (r : PairRow) : Json := .obj
  [("pair_addr", .str r.address), ("first_asset_info", .str r.firstAsset),
   ("second_asset_info", .str r.secondAsset), ("commission_rate", .str r.commissionRate),
   ("liquidity_addr", .str r.liquidityToken), ("oracle_addr", .str r.oracle),
   ("symbols", .str r.symbols)]

def ofDocument? (d : Document) : Option PairRow :=
  match d.fields? (table.columns.map (·.name)) with
  | some [some address, some first, some second, some rate, some token, some oracle,
      some symbols] => do
    return {
      address := ← address.text?
      firstAsset := ← first.text?
      secondAsset := ← second.text?
      commissionRate := ← rate.text?
      liquidityToken := ← token.text?
      oracle := ← oracle.text?
      symbols := ← symbols.text? }
  | _ => none

instance : Record PairRow := ⟨table, toJson, ofDocument?⟩

def ofPair (pair : Pair) (symbols : String) : PairRow where
  address := pair.address
  firstAsset := pair.base.toJson.compact
  secondAsset := pair.quote.toJson.compact
  commissionRate := pair.commissionRate
  liquidityToken := pair.liquidityToken
  oracle := pair.oracle
  symbols := symbols

/-- The asset that a stored text describes. -/
def asset? (text : String) : Option AssetInfo :=
  (Json.document? text).bind (AssetInfo.ofDocument? .text)

/-- The two assets of a row, base before quote, or which of them is not readable. -/
def assetInfos (r : PairRow) : Except String (AssetInfo × AssetInfo) :=
  match asset? r.firstAsset with
  | none => .error ("Invalid first asset info of pair " ++ r.address)
  | some base =>
    match asset? r.secondAsset with
    | none => .error ("Invalid second asset info of pair " ++ r.address)
    | some quote => .ok (base, quote)

end PairRow
end PoolIndexer
