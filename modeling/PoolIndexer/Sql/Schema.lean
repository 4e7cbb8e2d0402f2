import PoolIndexer.ChunkWrite
import PoolIndexer.Sql.Statement

/-!
The script that creates what is stored: the checkpoint, the tables and their indexes.
-/
namespace PoolIndexer.Sql

def typeName : ColumnType → String
  | .text => "TEXT"
  | .numeric => "NUMERIC"
  | .bigint => "BIGINT"
  | .double => "DOUBLE PRECISION"

/-- What a column admits: a key is unique, and no column may be absent. -/
def constraint (table : Table) (column : Column) : String :=
  if table.mode.key? = some column.name then "PRIMARY KEY" else "NOT NULL"

/-- A statement that creates a table out of the lines of its columns. -/
def createText (name : String) (lines : List String) : String :=
  "CREATE TABLE IF NOT EXISTS " ++ name ++ " (\n    "
    ++ String.intercalate ",\n    " lines ++ "\n)"

def createTable (table : Table) : String :=
  createText table.name <| table.columns.map fun column =>
    column.name ++ " " ++ typeName column.type ++ " " ++ constraint table column

def createIndex (name : String) (table : Table) (keys : List String) : String :=
  "CREATE INDEX IF NOT EXISTS " ++ name ++ " ON " ++ table.name
    ++ " (" ++ commaSeparated keys ++ ")"

def createCheckpoint : String :=
  "-- Sync checkpoint: single row, only ever moves forward\n" ++
    createText "height_snapshot" ["id SMALLINT PRIMARY KEY", "current_ind BIGINT NOT NULL",
      "updated_at TIMESTAMPTZ NOT NULL DEFAULT NOW()"]

/-- The statements of the script in order. -/
def schemaStatements : List String :=
  [createCheckpoint,
   createTable PairRow.table,
   createTable Swap.table,
   createIndex "idx_swap_ops_denoms_ts" Swap.table ["offer_denom", "ask_denom", "timestamp"],
   createIndex "idx_swap_ops_pair_ts" Swap.table ["pair_addr", "timestamp"],
   createTable LiquidityChange.table,
   createIndex "idx_lp_ops_pair_ts" LiquidityChange.table ["pair_addr", "timestamp"],
   createTable Candle.table,
   createIndex "idx_swap_ohlcv_pair_ts" Candle.table ["pair", "timestamp"],
   createTable Stake.table,
   createIndex "idx_stakings_staker_ts" Stake.table ["staker_address", "timestamp"],
   createTable Earning.table,
   createIndex "idx_earnings_staker_ts" Earning.table ["staker_address", "timestamp"],
   createTable PoolAmount.table,
   createIndex "idx_pool_amount_pair_height" PoolAmount.table
     ["pair_addr", "height DESC", "timestamp DESC"],
   createTable PoolApr.table,
   createIndex "idx_pool_apr_pair_height" PoolApr.table
     ["pair_addr", "height DESC", "timestamp DESC"]]

/-- The script. -/
def schemaScript : String := String.join (schemaStatements.map (· ++ ";\n"))

end PoolIndexer.Sql
