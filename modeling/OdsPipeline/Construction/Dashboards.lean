import OdsPipeline.Construction.MaterializedViews
import OdsPipeline.Library.Percentage

/-
This file contains queries of `realtime_dashboard.sql` and `periodic_dashboard.sql`.
-/

namespace OdsPipeline.RealtimeDashboard
open Library StarRocks MaterializedViews

/-- order_date >= CURDATE() - INTERVAL 7 DAY. -/
def inLastWeek (today date : Date) : Bool := today - 7 ≤ date

structure TopProduct where
  productCategoryName : String
  categoryGroup : String
  totalOrders : Nat
  totalValue : ℚ
  deriving DecidableEq

/-- The query before ORDER BY and LIMIT. -/
def productTotals (today : Date) (tables : CleanTables) : List TopProduct :=
  groupBy (fun row => (row.productCategoryName, row.categoryGroup)) (fun group rows => {
    productCategoryName := group.1
    categoryGroup := group.2
    totalOrders := (rows.map ProductPerformance.orderCount).sum
    totalValue := roundTo 2 (sumOf ProductPerformance.totalValue rows) })
    ((mvRealtimeProductPerformance tables).filter fun row => inLastWeek today row.orderDate)

def topSellingProducts (today : Date) (tables : CleanTables) : List TopProduct :=
  (orderByDesc TopProduct.totalOrders (productTotals today tables)).take 5

section Metrics

/-- WHERE order_date >= CURDATE() - INTERVAL 7 DAY. -/
def recentMetrics (today : Date) (tables : CleanTables) : List DailyMetrics :=
  (mvRealtimeDailyMetrics tables).filter fun metrics => inLastWeek today metrics.orderDate

def sumCount (count : DailyMetrics → Nat) (rows : List DailyMetrics) : Option ℚ :=
  sumColumn (fun metrics => some (count metrics : ℚ)) rows

structure LateDeliveryRate where
  metric : String
  lateOrders : Option ℚ
  totalDeliveredOrders : Option ℚ
  lateDeliveryRatePercent : Option ℚ
  deriving DecidableEq

/-- A query without GROUP BY returns one row. -/
def lateDeliveryRate (today : Date) (tables : CleanTables) : LateDeliveryRate :=
  let rows := recentMetrics today tables
  let late := sumCount DailyMetrics.lateDeliveryOrders rows
  let delivered := sumCount DailyMetrics.totalDeliveredOrders rows
  { metric := "Late Delivery Rate"
    lateOrders := late
    totalDeliveredOrders := delivered
    lateDeliveryRatePercent :=
      coalesce ((percentOf late (nullIf delivered 0)).map (roundTo 2)) (some 0) }

structure CancellationRate where
  metric : String
  cancelledOrders : Option ℚ
  totalOrders : Option ℚ
  cancellationRatePercent : Option ℚ
  deriving DecidableEq

def cancellationRate (today : Date) (tables : CleanTables) : CancellationRate :=
  let rows := recentMetrics today tables
  let cancelled := sumCount DailyMetrics.cancelledOrders rows
  let total := sumCount DailyMetrics.dailyOrders rows
  { metric := "Cancellation Rate"
    cancelledOrders := cancelled
    totalOrders := total
    cancellationRatePercent :=
      coalesce ((percentOf cancelled (nullIf total 0)).map (roundTo 2)) (some 0) }

structure StatusSlice where
  orderStatus : String
  orderCount : Option ℚ
  percentage : Option ℚ
  deriving DecidableEq

/-- One branch of the UNION ALL. -/
def statusSlice (orderStatus : String) (count : DailyMetrics → Nat) (rows : List DailyMetrics) :
    StatusSlice where
  orderStatus := orderStatus
  orderCount := sumCount count rows
  percentage :=
    (percentOf (sumCount count rows) (sumCount DailyMetrics.dailyOrders rows)).map (roundTo 1)

def orderStatusDistribution (today : Date) (tables : CleanTables) : List StatusSlice :=
  let rows := recentMetrics today tables
  orderByDesc (fun slice => sortKey slice.orderCount)
    [statusSlice "delivered" DailyMetrics.deliveredOrders rows,
     statusSlice "cancelled" DailyMetrics.cancelledOrders rows,
     statusSlice "shipped" DailyMetrics.shippedOrders rows,
     statusSlice "processing" DailyMetrics.processingOrders rows]

end Metrics

end OdsPipeline.RealtimeDashboard

namespace OdsPipeline.PeriodicDashboard
open Library StarRocks MaterializedViews

structure SegmentTotal where
  customerSegment : String
  customers : Nat
  avgClv : ℚ
  avgOrders : ℚ
  segmentTotalRevenue : ℚ
  minClv : Option ℚ
  maxClv : Option ℚ
  deriving DecidableEq

def customerSegmentation (tables : CleanTables) : List SegmentTotal :=
  orderByDesc SegmentTotal.avgClv
    (groupBy CustomerLifetime.customerSegment (fun customerSegment rows => {
      customerSegment := customerSegment
      customers := rows.length
      avgClv := roundTo 2 (average CustomerLifetime.totalSpent rows)
      avgOrders := roundTo 2 (average (fun row => (row.totalOrders : ℚ)) rows)
      segmentTotalRevenue := roundTo 2 (sumOf CustomerLifetime.totalSpent rows)
      minClv := (rows.map CustomerLifetime.totalSpent).min?.map (roundTo 2)
      maxClv := (rows.map CustomerLifetime.totalSpent).max?.map (roundTo 2) })
      (mvCustomerLifetimeAnalysis tables))

structure CategoryTotal where
  categoryGroup : String
  totalProducts : Nat
  totalOrders : Nat
  totalRevenue : ℚ
  avgItemPrice : ℚ
  uniqueCustomers : Nat
  revenuePerCustomer : Option ℚ
  deriving DecidableEq

def revenueByCategory (tables : CleanTables) : List CategoryTotal :=
  orderByDesc CategoryTotal.totalRevenue
    (groupBy CategoryRevenue.categoryGroup (fun categoryGroup rows => {
      categoryGroup := categoryGroup
      totalProducts := (rows.map CategoryRevenue.totalProducts).sum
      totalOrders := (rows.map CategoryRevenue.totalOrders).sum
      totalRevenue := roundTo 2 (sumOf CategoryRevenue.totalRevenue rows)
      avgItemPrice := roundTo 2 (average CategoryRevenue.avgItemPrice rows)
      uniqueCustomers := (rows.map CategoryRevenue.uniqueCustomers).sum
      revenuePerCustomer := (divide (sumOf CategoryRevenue.totalRevenue rows)
        (rows.map CategoryRevenue.uniqueCustomers).sum).map (roundTo 2) })
      (mvCategoryRevenueAnalysis tables))

structure WeekdayTotal where
  dayOfWeek : Int
  dayName : Option String
  totalOrders : Nat
  avgOrderValue : ℚ
  totalRevenue : ℚ
  deriving DecidableEq

/-- ORDER BY day_of_week is ascending. -/
def ordersByWeekday (tables : CleanTables) : List WeekdayTotal :=
  (groupBy (fun row => (row.dayOfWeek, row.dayName)) (fun group rows => {
    dayOfWeek := group.1
    dayName := group.2
    totalOrders := (rows.map BusinessPattern.orderCount).sum
    avgOrderValue := roundTo 2 (average BusinessPattern.avgOrderValue rows)
    totalRevenue := roundTo 2 (sumOf BusinessPattern.paymentTotal rows) })
    (mvBusinessPatterns tables)).mergeSort fun first second => first.dayOfWeek ≤ second.dayOfWeek

structure PaymentTypeTotal where
  paymentType : String
  transactionCount : Nat
  totalValue : ℚ
  avgTransactionValue : ℚ
  percentageShare : Option ℚ
  deriving DecidableEq

/-- Each share divides by the total of the whole view. -/
def revenueByPaymentType (tables : CleanTables) : List PaymentTypeTotal :=
  orderByDesc PaymentTypeTotal.totalValue
    (groupBy BusinessPattern.paymentType (fun paymentType rows => {
      paymentType := paymentType
      transactionCount := (rows.map BusinessPattern.paymentCount).sum
      totalValue := roundTo 2 (sumOf BusinessPattern.paymentTotal rows)
      avgTransactionValue := roundTo 2 (average BusinessPattern.avgOrderValue rows)
      percentageShare := (divide (sumOf BusinessPattern.paymentTotal rows * 100)
        (sumOf BusinessPattern.paymentTotal (mvBusinessPatterns tables))).map (roundTo 2) })
      (mvBusinessPatterns tables))

end OdsPipeline.PeriodicDashboard
