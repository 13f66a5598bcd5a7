import OdsPipeline.Library.Mirror
import OdsPipeline.Construction.OrderProcessor
import OdsPipeline.Construction.OrderItemProcessor
import OdsPipeline.Construction.PaymentProcessor
import OdsPipeline.Construction.CustomerProcessor
import OdsPipeline.Construction.ReviewProcessor
import OdsPipeline.Construction.ProductProcessor
import OdsPipeline.Proof.Routing
import OdsPipeline.Proof.ErrorMessages
import OdsPipeline.Library.Load
import OdsPipeline.Proof.CleanMirror
import OdsPipeline.Proof.SinkKeys
import OdsPipeline.Construction.CleanSchema
import OdsPipeline.Construction.ErrorSchema
import OdsPipeline.Proof.TargetSchema
import OdsPipeline.Library.Survival
import OdsPipeline.Proof.ErrorLifetime
import OdsPipeline.Library.Reload
import OdsPipeline.Proof.Resubmission
import OdsPipeline.Construction.CleanTables
import OdsPipeline.Construction.Dashboards
import OdsPipeline.Proof.OrderCounts
import OdsPipeline.Proof.CategoryCounts
import OdsPipeline.Library.RowOrder
import OdsPipeline.Proof.SoftDelete
import OdsPipeline.Library.Rollup
import OdsPipeline.Proof.ViewTotals
import OdsPipeline.Construction.OdsETLJob
import OdsPipeline.Proof.Arrival
import OdsPipeline.Library.Redelivery
import OdsPipeline.Proof.Redelivery
import OdsPipeline.Construction.DataGenerator
import OdsPipeline.Proof.GenerateOrder
import OdsPipeline.Proof.GeneratedRows
import OdsPipeline.Library.Json
import OdsPipeline.Proof.RawData
import OdsPipeline.Proof.ErrorCollisions
import OdsPipeline.Proof.CategoryCustomers
import OdsPipeline.Proof.RolledAverages
import OdsPipeline.Construction.DataQuality
import OdsPipeline.Proof.ErrorReports
import OdsPipeline.Proof.Rates
import OdsPipeline.Proof.StatusDistribution
import OdsPipeline.Proof.SuccessRate
import OdsPipeline.Proof.Segments
import OdsPipeline.Proof.Lateness
import OdsPipeline.Proof.ProductCounts
import OdsPipeline.Proof.PaymentShares
import OdsPipeline.Proof.LoadTimes
import OdsPipeline.Proof.Balance
import OdsPipeline.Library.LetterCase
import OdsPipeline.Proof.CategoryGroups
import OdsPipeline.Proof.GeneratedReviews
import OdsPipeline.Construction.LatencyTest
import OdsPipeline.Proof.LatencyTest
import OdsPipeline.Library.Image
import OdsPipeline.Library.Replica
import OdsPipeline.Construction.Feed
import OdsPipeline.Proof.Feeds
import OdsPipeline.Proof.EndToEnd
import OdsPipeline.Library.Effect
import OdsPipeline.Construction.Inserts
import OdsPipeline.Construction.Scheduler
import OdsPipeline.Proof.Inserts
import OdsPipeline.Proof.Scheduler
import OdsPipeline.Proof.Caches
import OdsPipeline.Proof.Commits
import OdsPipeline.Proof.Bursts
import OdsPipeline.Library.Interleaving
import OdsPipeline.Construction.Threads
import OdsPipeline.Proof.Threads
import OdsPipeline.Library.Growth
import OdsPipeline.Library.Pairing
import OdsPipeline.Proof.SourceRows
import OdsPipeline.Proof.Sales
import OdsPipeline.Proof.GeneratedRuns
import OdsPipeline.Proof.GeneratedViews
import OdsPipeline.Library.Window
import OdsPipeline.Proof.Memory
import OdsPipeline.Proof.LatencyReports
import OdsPipeline.Library.Tally
import OdsPipeline.Proof.Accounts
import OdsPipeline.Proof.GeneratedErrors
import OdsPipeline.Library.KeyedJoin
import OdsPipeline.Proof.GeneratedItems
import OdsPipeline.Library.Restart
import OdsPipeline.Construction.Restarts
import OdsPipeline.Proof.Restarts
import OdsPipeline.Library.Ranking
import OdsPipeline.Proof.ErrorDashboard
import OdsPipeline.Library.Standing
import OdsPipeline.Proof.Alerts
import OdsPipeline.Library.Script
import OdsPipeline.Construction.SampleData
import OdsPipeline.Proof.SampleData
import OdsPipeline.Proof.SampleRuns
import OdsPipeline.Proof.GeneratedCustomers
import OdsPipeline.Library.Frontier
import OdsPipeline.Proof.Frontiers
import OdsPipeline.Proof.LatencyRuns
