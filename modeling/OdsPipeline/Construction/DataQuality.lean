import OdsPipeline.Construction.Dashboards
import OdsPipeline.Library.Ranking

/-
This file contains the error views of `create-materialized-views.sql` and queries of
`data_quality_dashboard.sql`.
-/

namespace OdsPipeline.StarRocks
open Library SqlQueries

/-- Each error table keeps its primary key distinct. -/
structure ErrorTables where
  orders : KeyedTable ordersErrorSinkKey
  orderItems : KeyedTable orderItemsErrorSinkKey
  products : KeyedTable productsErrorSinkKey
  reviews : KeyedTable reviewsErrorSinkKey
  payments : KeyedTable paymentsErrorSinkKey
  customers : KeyedTable customersErrorSinkKey

end OdsPipeline.StarRocks

namespace OdsPipeline.MaterializedViews
open Library SqlQueries StarRocks

section Shared
variable {Columns : Type}

/-- WHERE is_deleted = false. -/
def liveErrors (rows : List (ErrorSink Columns)) : List (ErrorSink Columns) :=
  rows.filter fun row => !row.isDeleted

structure ErrorTrend where
  errorDate : Date
  tableName : String
  errorCount : Nat
  errorType : String
  errorMessage : String
  deriving DecidableEq

def errorTrends (tableName : String) (rows : List (ErrorSink Columns)) : List ErrorTrend :=
  groupBy (fun row => (row.errorTimestamp.date, row.errorType, row.errorMessage)) (fun group rows => {
    errorDate := group.1
    tableName := tableName
    errorCount := rows.length
    errorType := group.2.1
    errorMessage := group.2.2 }) (liveErrors rows)

structure ErrorSummary where
  tableName : String
  totalErrors : Nat
  errors24h : Nat
  errors2h : Nat
  lastErrorTime : Option Timestamp
  deriving DecidableEq

def hourMillis : Int := 3600000

/-- error_timestamp >= NOW() - INTERVAL hours HOUR. -/
def inLastHours (hours : Int) (now : Timestamp) (row : ErrorSink Columns) : Truth :=
  .ofBool (now - hours * hourMillis ≤ row.errorTimestamp)

/-- A view without GROUP BY has one row. -/
def errorSummary (tableName : String) (now : Timestamp) (rows : List (ErrorSink Columns)) :
    ErrorSummary where
  tableName := tableName
  totalErrors := (liveErrors rows).length
  errors24h := countWhen (inLastHours 24 now) (liveErrors rows)
  errors2h := countWhen (inLastHours 2 now) (liveErrors rows)
  lastErrorTime := ((liveErrors rows).map ErrorSink.errorTimestamp).max?

end Shared

section Views
variable (now : Timestamp) (tables : ErrorTables)

def mvOrdersErrorTrends : List ErrorTrend := errorTrends "orders" tables.orders.rows

def mvOrdersErrorSummary : ErrorSummary := errorSummary "orders" now tables.orders.rows

def mvOrderItemsErrorTrends : List ErrorTrend := errorTrends "order_items" tables.orderItems.rows

def mvOrderItemsErrorSummary : ErrorSummary :=
  errorSummary "order_items" now tables.orderItems.rows

def mvProductsErrorTrends : List ErrorTrend := errorTrends "products" tables.products.rows

def mvProductsErrorSummary : ErrorSummary := errorSummary "products" now tables.products.rows

def mvReviewsErrorTrends : List ErrorTrend := errorTrends "reviews" tables.reviews.rows

def mvReviewsErrorSummary : ErrorSummary := errorSummary "reviews" now tables.reviews.rows

def mvPaymentsErrorTrends : List ErrorTrend := errorTrends "payments" tables.payments.rows

def mvPaymentsErrorSummary : ErrorSummary := errorSummary "payments" now tables.payments.rows

def mvCustomersErrorTrends : List ErrorTrend := errorTrends "customers" tables.customers.rows

def mvCustomersErrorSummary : ErrorSummary := errorSummary "customers" now tables.customers.rows

end Views

end OdsPipeline.MaterializedViews

namespace OdsPipeline.DataQualityDashboard
open Library SqlQueries StarRocks MaterializedViews RealtimeDashboard

structure DailyErrors where
  errorDate : Date
  totalErrors : Nat
  deriving DecidableEq

/-- One branch of the UNION ALL counts the recent errors of one table. -/
def tableErrors (today : Date) (trends : List ErrorTrend) : List DailyErrors :=
  groupBy ErrorTrend.errorDate (fun errorDate rows => {
    errorDate := errorDate
    totalErrors := (rows.map ErrorTrend.errorCount).sum })
    (trends.filter fun trend => inLastWeek today trend.errorDate)

def allErrors (today : Date) (tables : ErrorTables) : List DailyErrors :=
  tableErrors today (mvOrdersErrorTrends tables) ++
    tableErrors today (mvOrderItemsErrorTrends tables) ++
    tableErrors today (mvProductsErrorTrends tables) ++
    tableErrors today (mvReviewsErrorTrends tables) ++
    tableErrors today (mvPaymentsErrorTrends tables) ++
    tableErrors today (mvCustomersErrorTrends tables)

def dailyErrorCount (today : Date) (tables : ErrorTables) : List DailyErrors :=
  orderByDesc DailyErrors.errorDate (groupBy DailyErrors.errorDate (fun errorDate rows => {
    errorDate := errorDate
    totalErrors := (rows.map DailyErrors.totalErrors).sum }) (allErrors today tables))

/-- The UNION ALL of the six summaries. -/
def allSummaries (now : Timestamp) (tables : ErrorTables) : List ErrorSummary :=
  [mvOrdersErrorSummary now tables, mvOrderItemsErrorSummary now tables,
   mvProductsErrorSummary now tables, mvReviewsErrorSummary now tables,
   mvPaymentsErrorSummary now tables, mvCustomersErrorSummary now tables]

structure SuccessRate where
  successRatePercentage : Option ℚ
  cleanRecords : Option ℚ
  errorRecords : Option ℚ
  deriving DecidableEq

/-- CURDATE() is the date of NOW(). -/
def successRate (now : Timestamp) (clean : CleanTables) (errors : ErrorTables) : SuccessRate :=
  let cleanRecords := sumCount DailyMetrics.dailyOrders
    ((mvRealtimeDailyMetrics clean).filter fun metrics => metrics.orderDate = now.date)
  let errorRecords := sumColumn (fun summary => some (summary.errors24h : ℚ))
    (allSummaries now errors)
  { successRatePercentage :=
      (percentOf cleanRecords (nullIf (plus cleanRecords errorRecords) 0)).map (roundTo 2)
    cleanRecords := cleanRecords
    errorRecords := errorRecords }

structure ErrorTypeCount where
  tableName : String
  errorCount : Nat
  deriving DecidableEq

/-- The bar chart reads the summaries as they were at their last refresh. -/
def errorTypesDistribution (refreshed : Timestamp) (tables : ErrorTables) : List ErrorTypeCount :=
  orderByDesc ErrorTypeCount.errorCount
    (((allSummaries refreshed tables).filter fun summary => 0 < summary.errors24h).map
      fun summary => { tableName := summary.tableName, errorCount := summary.errors24h })

/-- error_date >= CURDATE() - INTERVAL 1 DAY. -/
def inLastDay (today date : Date) : Bool := today - 1 ≤ date

structure RecentError where
  errorType : String
  errorMessage : String
  tableName : String
  errorDate : Date
  frequency : Nat
  deriving DecidableEq

/-- One branch of the UNION ALL lists the recent trends of one table. -/
def tableMessages (today : Date) (trends : List ErrorTrend) : List RecentError :=
  (trends.filter fun trend => inLastDay today trend.errorDate).map fun trend => {
    errorType := trend.errorType
    errorMessage := trend.errorMessage
    tableName := trend.tableName
    errorDate := trend.errorDate
    frequency := trend.errorCount }

def allRecentErrors (today : Date) (tables : ErrorTables) : List RecentError :=
  tableMessages today (mvOrdersErrorTrends tables) ++
    tableMessages today (mvOrderItemsErrorTrends tables) ++
    tableMessages today (mvProductsErrorTrends tables) ++
    tableMessages today (mvReviewsErrorTrends tables) ++
    tableMessages today (mvPaymentsErrorTrends tables) ++
    tableMessages today (mvCustomersErrorTrends tables)

/-- ORDER BY error_date DESC, error_count DESC LIMIT 20. -/
def recentErrorMessages (today : Date) (tables : ErrorTables) : List RecentError :=
  topRows (fun error => toLex (error.errorDate, error.frequency)) 20 (allRecentErrors today tables)

structure TableStatus where
  tableName : String
  errors24h : Nat
  deriving DecidableEq

/-- One branch of the alert reads the error table and not its view. -/
def tableStatus {Columns : Type} (tableName : String) (now : Timestamp)
    (rows : List (ErrorSink Columns)) : TableStatus where
  tableName := tableName
  errors24h :=
    (rows.filter fun row =>
      now - 24 * hourMillis ≤ row.errorTimestamp && row.isDeleted = false).length

def allTableStatus (now : Timestamp) (tables : ErrorTables) : List TableStatus :=
  [tableStatus "orders" now tables.orders.rows,
   tableStatus "order_items" now tables.orderItems.rows,
   tableStatus "products" now tables.products.rows,
   tableStatus "reviews" now tables.reviews.rows,
   tableStatus "payments" now tables.payments.rows,
   tableStatus "customers" now tables.customers.rows]

/-- The daily mail is sent about this number. -/
def criticalTablesCount (now : Timestamp) (tables : ErrorTables) : Nat :=
  ((allTableStatus now tables).filter fun status => 20 < status.errors24h).length

end OdsPipeline.DataQualityDashboard
