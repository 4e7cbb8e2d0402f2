import PoolIndexer.Sql.Server
import PoolIndexer.Store.Read

/-!
The statements that read a store, and how the rows they give are read.
-/
namespace PoolIndexer.Sql

/-- A statement together with what becomes of each row it gives. -/
structure Query (α : Type) where
  statement : Statement
  read : ResultRow → Except StorageError α

def loadCheckpoint : Query Nat where
  statement := { text := "SELECT current_ind FROM height_snapshot WHERE id = 1" }
  read r := r.vital "current_ind"

def countRows (table : Table) : Query Nat where
  statement := { text := "SELECT COUNT(*) AS count FROM " ++ table.name }
  read r := r.vital "count"

def readPair (r : ResultRow) : Except StorageError PairRow := do
  return {
    address := ← r.text "pair_addr"
    firstAsset := ← r.text "first_asset_info"
    secondAsset := ← r.text "second_asset_info"
    commissionRate := ← r.text "commission_rate"
    liquidityToken := ← r.text "liquidity_addr"
    oracle := ← r.text "oracle_addr"
    symbols := ← r.text "symbols" }

def pairInfos : Query PairRow where
  statement := { text :=
    "SELECT pair_addr, first_asset_info, second_asset_info, commission_rate,
      liquidity_addr, oracle_addr, symbols
    FROM pair_infos
    ORDER BY pair_addr" }
  read := readPair

/-- The row of every pair that no other comes after. -/
def latestPoolAmounts : Query PoolAmount where
  statement := { text :=
    "SELECT DISTINCT ON (pair_addr)
      unique_key, pair_addr,
      offer_pool_amount::TEXT AS offer_pool_amount,
      ask_pool_amount::TEXT AS ask_pool_amount,
      total_share::TEXT AS total_share,
      height, timestamp
    FROM pool_amount_history
    ORDER BY pair_addr, height DESC, timestamp DESC" }
  read r := do
    return {
      key := ← r.text "unique_key"
      pairAddress := ← r.text "pair_addr"
      base := ← r.numeric "offer_pool_amount"
      quote := ← r.numeric "ask_pool_amount"
      share := ← r.numeric "total_share"
      height := ← r.height "height"
      time := ← r.int "timestamp" }

/-- The volume of two denominations in buckets of `interval` seconds within `[start, stop]`. -/
def volumes (base quote : String) (interval start stop : Int) : Query Volume where
  statement := {
    text :=
      "SELECT
        (timestamp / $3) * $3 AS bucket,
        SUM(CASE WHEN offer_denom = $1 THEN offer_amount ELSE return_amount END)::TEXT
          AS base_volume,
        SUM(CASE WHEN offer_denom = $2 THEN offer_amount ELSE return_amount END)::TEXT
          AS quote_volume
      FROM swap_ops_data
      WHERE ((offer_denom = $1 AND ask_denom = $2) OR (offer_denom = $2 AND ask_denom = $1))
        AND timestamp >= $4 AND timestamp <= $5
      GROUP BY bucket
      ORDER BY bucket"
    parameters := [.text base, .text quote, .int interval, .int start, .int stop] }
  read r := do
    return {
      time := ← r.int "bucket"
      pair := RowKey.join [base, quote]
      base := ← r.numeric "base_volume"
      quote := ← r.numeric "quote_volume" }

/-- The candles of a pair in buckets of `interval` seconds within `[start, stop]`. -/
def candles (pair : String) (interval start stop : Int) : Query Candle where
  statement := {
    text :=
      "SELECT
        (timestamp / $2) * $2 AS bucket,
        (ARRAY_AGG(open ORDER BY timestamp ASC, txheight ASC))[1] AS open,
        (ARRAY_AGG(close ORDER BY timestamp DESC, txheight DESC))[1] AS close,
        MAX(high) AS high,
        MIN(low) AS low,
        SUM(volume)::TEXT AS volume,
        MAX(txheight) AS txheight
      FROM swap_ohlcv
      WHERE pair = $1 AND timestamp >= $3 AND timestamp <= $4
      GROUP BY bucket
      ORDER BY bucket"
    parameters := [.text pair, .int interval, .int start, .int stop] }
  read r := do
    let time ← r.int "bucket"
    return {
      key := RowKey.join [Numeral.text time, pair]
      pair, time
      height := ← r.height "txheight"
      openPrice := ← r.real "open"
      high := ← r.real "high"
      low := ← r.real "low"
      close := ← r.real "close"
      volume := ← r.numeric "volume" }

/-- The present state of every stored pair at a time. -/
def overviews (now : Int) : Query PoolOverview where
  statement := {
    text :=
      "SELECT
        p.pair_addr, p.first_asset_info, p.second_asset_info, p.commission_rate,
        p.liquidity_addr, p.oracle_addr, p.symbols,
        COALESCE(pa.offer_pool_amount, 0)::TEXT AS offer_pool_amount,
        COALESCE(pa.ask_pool_amount, 0)::TEXT AS ask_pool_amount,
        COALESCE(pa.total_share, 0)::TEXT AS total_share,
        COALESCE(apr.apr, 0) AS apr,
        COALESCE((
          SELECT SUM(s.volume_usdt) FROM swap_ops_data s
          WHERE s.pair_addr = p.pair_addr AND s.timestamp >= $1
        ), 0)::TEXT AS volume_24h,
        (
          COALESCE((
            SELECT SUM(s.commission_usdt) FROM swap_ops_data s
            WHERE s.pair_addr = p.pair_addr AND s.timestamp >= $2
          ), 0)
          + COALESCE((
            SELECT SUM(l.tax_rate) FROM lp_ops_data l
            WHERE l.pair_addr = p.pair_addr AND l.timestamp >= $2
          ), 0)
        )::TEXT AS fee_7_days
      FROM pair_infos p
      LEFT JOIN LATERAL (
        SELECT offer_pool_amount, ask_pool_amount, total_share
        FROM pool_amount_history h
        WHERE h.pair_addr = p.pair_addr
        ORDER BY h.height DESC, h.timestamp DESC
        LIMIT 1
      ) pa ON TRUE
      LEFT JOIN LATERAL (
        SELECT a.apr
        FROM pool_apr a
        WHERE a.pair_addr = p.pair_addr
        ORDER BY a.height DESC, a.timestamp DESC
        LIMIT 1
      ) apr ON TRUE
      ORDER BY p.pair_addr"
    parameters := [.int (wrap64 (now - Timestamp.day)), .int (wrap64 (now - 7 * Timestamp.day))] }
  read r := do
    return {
      pair := ← readPair r
      base := ← r.numeric "offer_pool_amount"
      quote := ← r.numeric "ask_pool_amount"
      share := ← r.numeric "total_share"
      apr := ← r.real "apr"
      dayVolume := ← r.numeric "volume_24h"
      weekFees := ← r.numeric "fee_7_days" }

def readTotal (r : ResultRow) : Except StorageError DenomTotal := do
  return {
    denom := ← r.text "denom"
    amount := ← r.numeric "amount"
    valueUsdt := ← r.numeric "amount_in_usdt" }

/-- What an address staked within `[start, stop]`, by liquidity token. -/
def stakedBy (address : String) (start stop : Int) : Query DenomTotal where
  statement := {
    text :=
      "SELECT
        staking_asset_denom AS denom,
        SUM(stake_amount)::TEXT AS amount,
        SUM(stake_amount_in_usdt)::TEXT AS amount_in_usdt
      FROM stakings
      WHERE staker_address = $1 AND timestamp >= $2 AND timestamp <= $3
      GROUP BY staking_asset_denom
      ORDER BY staking_asset_denom"
    parameters := [.text address, .int start, .int stop] }
  read := readTotal

/-- What an address earned within `[start, stop]`, by rewarded denomination. -/
def earnedBy (address : String) (start stop : Int) : Query DenomTotal where
  statement := {
    text :=
      "SELECT
        reward_asset_denom AS denom,
        SUM(earn_amount)::TEXT AS amount,
        SUM(earn_amount_in_usdt)::TEXT AS amount_in_usdt
      FROM earnings
      WHERE staker_address = $1 AND timestamp >= $2 AND timestamp <= $3
      GROUP BY reward_asset_denom
      ORDER BY reward_asset_denom"
    parameters := [.text address, .int start, .int stop] }
  read := readTotal

end PoolIndexer.Sql
