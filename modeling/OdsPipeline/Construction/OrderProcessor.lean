import OdsPipeline.Construction.Processor

namespace OdsPipeline.OrderProcessor
open Library SqlQueries

def validStatuses : List String := ["pending", "processing", "shipped", "delivered", "cancelled"]

def deliveryDelayDays (row : OrdersColumns) : Option Int :=
  caseWhen
    [((isNotNull row.orderDeliveredCustomerDate).and (isNotNull row.orderEstimatedDeliveryDate),
      Option.map₂ timestampDiffDay row.orderEstimatedDeliveryDate row.orderDeliveredCustomerDate)]
    none

def cleanSelect (row : OrdersSource) : OrdersData where
  toOrdersColumns := row.toOrdersColumns
  orderYear := row.orderPurchaseTimestamp.map fun time => (civilDate time.date).year
  orderMonth := row.orderPurchaseTimestamp.map fun time => (civilDate time.date).month
  orderDay := row.orderPurchaseTimestamp.map fun time => (civilDate time.date).day
  deliveryDelayDays := deliveryDelayDays row.toOrdersColumns
  isDelivered := caseWhen [(check row.orderStatus (· = "delivered"), true)] false
  isDeleted := row.isDeleted

def cleanConjuncts (row : OrdersSource) : List (Column × Truth) :=
  [(.orderId, isNotNull row.orderId),
   (.orderId, check (charLength row.orderId) (· ≤ 50)),
   (.customerId, isNotNull row.customerId),
   (.customerId, check (charLength row.customerId) (· ≤ 50)),
   (.orderStatus, check row.orderStatus (· ∈ validStatuses)),
   (.orderPurchaseTimestamp, isNotNull row.orderPurchaseTimestamp)]

/-- The error statement repeats the clean conditions under NOT. -/
def errorConjuncts (row : OrdersSource) : List (Column × Truth) :=
  [(.orderId, isNotNull row.orderId),
   (.orderId, check (charLength row.orderId) (· ≤ 50)),
   (.customerId, isNotNull row.customerId),
   (.customerId, check (charLength row.customerId) (· ≤ 50)),
   (.orderStatus, check row.orderStatus (· ∈ validStatuses)),
   (.orderPurchaseTimestamp, isNotNull row.orderPurchaseTimestamp)]

def messageBranches (row : OrdersSource) : List (Truth × String) :=
  [((isNull row.orderId).or (check (charLength row.orderId) (50 < ·)), "Invalid order ID"),
   ((isNull row.customerId).or (check (charLength row.customerId) (50 < ·)),
    "Invalid customer ID"),
   ((check row.orderStatus (· ∈ validStatuses)).not, "Invalid order status"),
   (isNull row.orderPurchaseTimestamp, "Missing timestamp")]

def errorMessage (row : OrdersSource) : String :=
  caseWhen (messageBranches row) "Unknown validation error"

def processOrdersWithSQL :
    Processor OrdersSource OrdersData OrdersColumns (Option String) (Option String × Timestamp) where
  clean := {
    condition := fun row => whereAll (cleanConjuncts row)
    select := fun now row => cleanRow now (cleanSelect row)
    primaryKey := ordersSinkKey }
  error := {
    condition := fun row => (whereAll (errorConjuncts row)).not
    select := fun now row => errorRow now row.toOrdersColumns (errorMessage row)
      (rawData "order_id" row.orderId)
    primaryKey := ordersErrorSinkKey }

end OdsPipeline.OrderProcessor
