import SiaExplorer.Model.Types
import SiaExplorer.Model.HashStore
import SiaExplorer.Model.SQLiteStore
import SiaExplorer.Model.Explorer
import SiaExplorer.Logic.HashStore
import SiaExplorer.Logic.SQLiteStore
import SiaExplorer.Logic.Explorer
import SiaExplorer.Logic.Tables
import SiaExplorer.Logic.Keys
import SiaExplorer.Ledger.Chain
import SiaExplorer.Ledger.Live
import SiaExplorer.Ledger.Stats
import SiaExplorer.Ledger.Check
import SiaExplorer.Logic.Agrees
import SiaExplorer.Logic.Follows
import SiaExplorer.Theorems.Batch
import SiaExplorer.Theorems.Readback
import SiaExplorer.Theorems.Elements
import SiaExplorer.Theorems.Stats
import SiaExplorer.Theorems.History
import SiaExplorer.Theorems.Failure
import SiaExplorer.Theorems.Proofs
import SiaExplorer.Theorems.Keys
import SiaExplorer.Theorems.LevelFiles
import SiaExplorer.Logic.Rows
import SiaExplorer.Theorems.Queries
import SiaExplorer.Model.Api
import SiaExplorer.Theorems.Api
import SiaExplorer.Model.Wallet
import SiaExplorer.Theorems.Wallet
import SiaExplorer.Model.Client
import SiaExplorer.Theorems.Client
import SiaExplorer.Theorems.Outputs
import SiaExplorer.Theorems.Views
import SiaExplorer.Theorems.Reorg
import SiaExplorer.Theorems.Retry
