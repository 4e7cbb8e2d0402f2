import PoolIndexer.Chain.State
import PoolIndexer.Feed.Source
import PoolIndexer.Settings
import PoolIndexer.Sql.Client
import PoolIndexer.Sql.Scripted
import PoolIndexer.Store.Memory
import PoolIndexer.Proofs.Acceptance
import PoolIndexer.Proofs.Acknowledgement
import PoolIndexer.Proofs.Backend
import PoolIndexer.Proofs.Balance
import PoolIndexer.Proofs.Binary64
import PoolIndexer.Proofs.Candle.Cutting
import PoolIndexer.Proofs.Candle.Finite
import PoolIndexer.Proofs.Candle.Grouping
import PoolIndexer.Proofs.Candle.Merging
import PoolIndexer.Proofs.Candle.Reading
import PoolIndexer.Proofs.ChunkWrite
import PoolIndexer.Proofs.CoinList
import PoolIndexer.Proofs.Decimal
import PoolIndexer.Proofs.Decimal.Quotient
import PoolIndexer.Proofs.Delivery
import PoolIndexer.Proofs.Display
import PoolIndexer.Proofs.Division
import PoolIndexer.Proofs.Effect
import PoolIndexer.Proofs.Feed.Fetching
import PoolIndexer.Proofs.Feed.Paging
import PoolIndexer.Proofs.Feed.Tagging
import PoolIndexer.Proofs.Feed.Tiling
import PoolIndexer.Proofs.FirstMet
import PoolIndexer.Proofs.Halting
import PoolIndexer.Proofs.History
import PoolIndexer.Proofs.Holdings
import PoolIndexer.Proofs.Indexer.Asking
import PoolIndexer.Proofs.Indexer.Building
import PoolIndexer.Proofs.Indexer.Dividing
import PoolIndexer.Proofs.Indexer.Enriching
import PoolIndexer.Proofs.Indexer.FanOut
import PoolIndexer.Proofs.Indexer.Filling
import PoolIndexer.Proofs.Indexer.Journaling
import PoolIndexer.Proofs.Indexer.Processing
import PoolIndexer.Proofs.Indexer.Rebuilding
import PoolIndexer.Proofs.Indexer.Recording
import PoolIndexer.Proofs.Indexer.Refreshing
import PoolIndexer.Proofs.Indexer.Restarting
import PoolIndexer.Proofs.Indexer.Seeding
import PoolIndexer.Proofs.Indexer.Validating
import PoolIndexer.Proofs.Indexer.Yielding
import PoolIndexer.Proofs.Insertion
import PoolIndexer.Proofs.Isolation
import PoolIndexer.Proofs.Json
import PoolIndexer.Proofs.Keyed
import PoolIndexer.Proofs.KeyedRows
import PoolIndexer.Proofs.LatestReserves
import PoolIndexer.Proofs.Lcd.Asking
import PoolIndexer.Proofs.Lcd.Batching
import PoolIndexer.Proofs.Lcd.Listing
import PoolIndexer.Proofs.Ledger
import PoolIndexer.Proofs.Numeral
import PoolIndexer.Proofs.Overview
import PoolIndexer.Proofs.PoolAmount
import PoolIndexer.Proofs.Pricing
import PoolIndexer.Proofs.Record
import PoolIndexer.Proofs.Registry
import PoolIndexer.Proofs.Replay
import PoolIndexer.Proofs.ReplayedBalances
import PoolIndexer.Proofs.Reseeding
import PoolIndexer.Proofs.Reserves
import PoolIndexer.Proofs.Result
import PoolIndexer.Proofs.Result.Lists
import PoolIndexer.Proofs.Rounding
import PoolIndexer.Proofs.RowKey
import PoolIndexer.Proofs.Runs
import PoolIndexer.Proofs.SimulatedSwap
import PoolIndexer.Proofs.Solvency
import PoolIndexer.Proofs.Sorting
import PoolIndexer.Proofs.Sql.Binding
import PoolIndexer.Proofs.Sql.Committing
import PoolIndexer.Proofs.Sql.Placeholders
import PoolIndexer.Proofs.Sql.Redelivery
import PoolIndexer.Proofs.Sql.Rows
import PoolIndexer.Proofs.Sql.Splitting
import PoolIndexer.Proofs.Sql.Transacting
import PoolIndexer.Proofs.Stamping
import PoolIndexer.Proofs.StoredAssets
import PoolIndexer.Proofs.Table
import PoolIndexer.Proofs.Task
import PoolIndexer.Proofs.Taxing
import PoolIndexer.Proofs.Timestamp
import PoolIndexer.Proofs.Transaction
import PoolIndexer.Proofs.Transaction.Layout
import PoolIndexer.Proofs.Transaction.Reading
import PoolIndexer.Proofs.Transaction.Reordering
import PoolIndexer.Proofs.Validation
import PoolIndexer.Proofs.Volume
import PoolIndexer.Proofs.WritePaths
