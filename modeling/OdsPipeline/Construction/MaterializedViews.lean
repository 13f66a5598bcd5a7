import OdsPipeline.Construction.CleanTables
import OdsPipeline.Library.Relation

/-
This file contains the five clean views of `create-materialized-views.sql`.
-/

namespace OdsPipeline.MaterializedViews
open Library StarRocks

section Payments

/-- The live orders joined with their live payments. -/
def ordersWithPayments (tables : CleanTables) : List (OdsOrders × OdsPayments) :=
  (join tables.orders.rows tables.payments.rows fun o p => o.orderId = p.orderId).filter
    fun row => !row.1.isDeleted && !row.2.isDeleted

structure DailyMetrics where
  orderDate : Date
  dailyOrders : Nat
  deliveredOrders : Nat
  cancelledOrders : Nat
  shippedOrders : Nat
  processingOrders : Nat
  lateDeliveryOrders : Nat
  totalDeliveredOrders : Nat
  dailyRevenue : ℚ
  avgOrderValue : ℚ
  deriving DecidableEq

def isLate (o : OdsOrders) : Truth :=
  checkBoth o.orderDeliveredCustomerDate o.orderEstimatedDeliveryDate fun delivered estimated =>
    estimated < delivered

def hasBothDates (o : OdsOrders) : Truth :=
  (isNotNull o.orderDeliveredCustomerDate).and (isNotNull o.orderEstimatedDeliveryDate)

def hasStatus (status : String) (o : OdsOrders) : Truth := .ofBool (o.orderStatus = status)

def mvRealtimeDailyMetrics (tables : CleanTables) : List DailyMetrics :=
  groupBy (fun row => row.1.orderPurchaseTimestamp.date) (fun orderDate rows => {
    orderDate := orderDate
    dailyOrders := rows.length
    deliveredOrders := countWhen (fun row => hasStatus "delivered" row.1) rows
    cancelledOrders := countWhen (fun row => hasStatus "cancelled" row.1) rows
    shippedOrders := countWhen (fun row => hasStatus "shipped" row.1) rows
    processingOrders := countWhen (fun row => hasStatus "processing" row.1) rows
    lateDeliveryOrders := countWhen (fun row => isLate row.1) rows
    totalDeliveredOrders := countWhen (fun row => hasBothDates row.1) rows
    dailyRevenue := roundTo 2 (sumOf (fun row => row.2.paymentValue) rows)
    avgOrderValue := roundTo 2 (average (fun row => row.2.paymentValue) rows) })
    (ordersWithPayments tables)

structure CustomerLifetime where
  customerId : String
  totalOrders : Nat
  totalSpent : ℚ
  avgOrderValue : ℚ
  firstOrderDate : Option Timestamp
  lastOrderDate : Option Timestamp
  customerSegment : String
  deriving DecidableEq

def segmentOf (spent : ℚ) : String :=
  caseWhen
    [(.ofBool (1000 ≤ spent), "VIP"), (.ofBool (500 ≤ spent), "Premium"),
     (.ofBool (200 ≤ spent), "Regular")] "Basic"

def mvCustomerLifetimeAnalysis (tables : CleanTables) : List CustomerLifetime :=
  groupBy (fun row => row.1.customerId) (fun customerId rows => {
    customerId := customerId
    totalOrders := rows.length
    totalSpent := roundTo 2 (sumOf (fun row => row.2.paymentValue) rows)
    avgOrderValue := roundTo 2 (average (fun row => row.2.paymentValue) rows)
    firstOrderDate := (rows.map fun row => row.1.orderPurchaseTimestamp).min?
    lastOrderDate := (rows.map fun row => row.1.orderPurchaseTimestamp).max?
    customerSegment := segmentOf (sumOf (fun row => row.2.paymentValue) rows) })
    (ordersWithPayments tables)

structure BusinessPattern where
  dayOfWeek : Int
  dayName : Option String
  orderCount : Nat
  avgOrderValue : ℚ
  paymentType : String
  paymentCount : Nat
  paymentTotal : ℚ
  deriving DecidableEq

/-- The CASE has no ELSE branch. -/
def dayName (day : Int) : Option String :=
  caseWhen
    [(.ofBool (day = 1), some "Sunday"), (.ofBool (day = 2), some "Monday"),
     (.ofBool (day = 3), some "Tuesday"), (.ofBool (day = 4), some "Wednesday"),
     (.ofBool (day = 5), some "Thursday"), (.ofBool (day = 6), some "Friday"),
     (.ofBool (day = 7), some "Saturday")] none

def weekday (o : OdsOrders) : Int := dayOfWeek o.orderPurchaseTimestamp.date

def mvBusinessPatterns (tables : CleanTables) : List BusinessPattern :=
  groupBy (fun row => (weekday row.1, row.2.paymentType)) (fun group rows => {
    dayOfWeek := group.1
    dayName := dayName group.1
    orderCount := rows.length
    avgOrderValue := roundTo 2 (average (fun row => row.2.paymentValue) rows)
    paymentType := group.2
    paymentCount := rows.length
    paymentTotal := roundTo 2 (sumOf (fun row => row.2.paymentValue) rows) })
    (ordersWithPayments tables)

end Payments

section Products

/-- The live products joined with their live items and the live orders of these items. -/
def productsWithOrders (tables : CleanTables) : List ((OdsProducts × OdsOrderItems) × OdsOrders) :=
  (join (join tables.products.rows tables.orderItems.rows fun pr oi => pr.productId = oi.productId)
    tables.orders.rows fun line o => line.2.orderId = o.orderId).filter
      fun row => !row.1.1.isDeleted && !row.1.2.isDeleted && !row.2.isDeleted

structure ProductPerformance where
  productCategoryName : String
  categoryGroup : String
  orderDate : Date
  orderCount : Nat
  totalValue : ℚ
  uniqueProducts : Nat
  avgItemPrice : ℚ
  deriving DecidableEq

def mvRealtimeProductPerformance (tables : CleanTables) : List ProductPerformance :=
  groupBy (fun row => ((row.1.1.productCategoryName, row.1.1.categoryGroup),
      row.2.orderPurchaseTimestamp.date)) (fun group rows => {
    productCategoryName := group.1.1
    categoryGroup := group.1.2
    orderDate := group.2
    orderCount := rows.length
    totalValue := roundTo 2 (sumOf (fun row => row.1.2.totalItemValue) rows)
    uniqueProducts := countDistinct (fun row => row.1.1.productId) rows
    avgItemPrice := roundTo 2 (average (fun row => row.1.2.price) rows) })
    (productsWithOrders tables)

structure CategoryRevenue where
  categoryGroup : String
  productCategoryName : String
  totalProducts : Nat
  totalOrders : Nat
  totalRevenue : ℚ
  avgItemPrice : ℚ
  uniqueCustomers : Nat
  deriving DecidableEq

def mvCategoryRevenueAnalysis (tables : CleanTables) : List CategoryRevenue :=
  groupBy (fun row => (row.1.1.categoryGroup, row.1.1.productCategoryName)) (fun group rows => {
    categoryGroup := group.1
    productCategoryName := group.2
    totalProducts := countDistinct (fun row => row.1.1.productId) rows
    totalOrders := rows.length
    totalRevenue := roundTo 2 (sumOf (fun row => row.1.2.totalItemValue) rows)
    avgItemPrice := roundTo 2 (average (fun row => row.1.2.price) rows)
    uniqueCustomers := countDistinct (fun row => row.2.customerId) rows })
    (productsWithOrders tables)

end Products

end OdsPipeline.MaterializedViews
