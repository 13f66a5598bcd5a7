import OdsPipeline.Construction.Processor

namespace OdsPipeline.OrderItemProcessor
open Library SqlQueries

def cleanSelect (row : OrderItemsSource) : OrderItemsData where
  toOrderItemsColumns := row.toOrderItemsColumns
  totalItemValue := Option.map₂ (· + ·) row.price row.freightValue
  priceCategory := caseWhen
    [(check row.price (500 < ·), "Premium"), (check row.price (100 < ·), "Standard")] "Budget"
  isDeleted := row.isDeleted

def cleanConjuncts (row : OrderItemsSource) : List (Column × Truth) :=
  [(.orderId, isNotNull row.orderId),
   (.orderId, check (charLength row.orderId) (· ≤ 50)),
   (.productId, isNotNull row.productId),
   (.productId, check (charLength row.productId) (· ≤ 50)),
   (.price, isNotNull row.price),
   (.price, check row.price (0 ≤ ·)),
   (.price, check row.price (· ≤ 10000)),
   (.freightValue, isNotNull row.freightValue),
   (.freightValue, check row.freightValue (0 ≤ ·)),
   (.freightValue, check row.freightValue (· ≤ 10000))]

def errorConjuncts (row : OrderItemsSource) : List (Column × Truth) :=
  [(.orderId, isNotNull row.orderId),
   (.orderId, check (charLength row.orderId) (· ≤ 50)),
   (.productId, isNotNull row.productId),
   (.productId, check (charLength row.productId) (· ≤ 50)),
   (.price, isNotNull row.price),
   (.price, check row.price (0 ≤ ·)),
   (.price, check row.price (· ≤ 10000)),
   (.freightValue, isNotNull row.freightValue),
   (.freightValue, check row.freightValue (0 ≤ ·)),
   (.freightValue, check row.freightValue (· ≤ 10000))]

def messageBranches (row : OrderItemsSource) : List (Truth × String) :=
  [((isNull row.orderId).or (check (charLength row.orderId) (50 < ·)), "Invalid order ID"),
   ((isNull row.productId).or (check (charLength row.productId) (50 < ·)), "Invalid product ID"),
   (.any [isNull row.price, check row.price (· < 0), check row.price (10000 < ·)],
    "Invalid price"),
   (.any [isNull row.freightValue, check row.freightValue (· < 0),
      check row.freightValue (10000 < ·)],
    "Invalid freight value")]

def errorMessage (row : OrderItemsSource) : String :=
  caseWhen (messageBranches row) "Unknown validation error"

def processOrderItemsWithSQL :
    Processor OrderItemsSource OrderItemsData OrderItemsColumns (Option String × Option String)
      ((Option String × Option String) × Timestamp) where
  clean := {
    condition := fun row => whereAll (cleanConjuncts row)
    select := fun now row => cleanRow now (cleanSelect row)
    primaryKey := orderItemsSinkKey }
  error := {
    condition := fun row => (whereAll (errorConjuncts row)).not
    select := fun now row => errorRow now row.toOrderItemsColumns (errorMessage row)
      (rawData "order_id" row.orderId)
    primaryKey := orderItemsErrorSinkKey }

end OdsPipeline.OrderItemProcessor
