import OdsPipeline.Construction.Postgres
import OdsPipeline.Library.Changelog

/-
This file contains the source and sink tables of `SqlQueries.java`.
The statements read each row that Postgres admits with plain SQL logic, so every column can be NULL.
-/

namespace OdsPipeline.SqlQueries
open Library

/-- A clean sink adds two load timestamps to its data columns. -/
structure CleanSink (Data : Type) where
  data : Data
  createdAt : Timestamp
  updatedAt : Timestamp
  deriving DecidableEq

/-- An error sink adds these columns to the source columns. -/
structure ErrorReport (Columns : Type) where
  columns : Columns
  errorType : String
  errorMessage : String
  rawData : String
  isDeleted : Bool
  deriving DecidableEq

structure ErrorSink (Columns : Type) extends ErrorReport Columns where
  errorTimestamp : Timestamp
  createdAt : Timestamp
  updatedAt : Timestamp
  deriving DecidableEq

/-- CONCAT('{"column":"', COALESCE(id, 'null'), '"}'). -/
def rawData (column : String) (id : Option String) : String :=
  "\x7b\"" ++ column ++ "\":\"" ++ id.getD "null" ++ "\"\x7d"

/-- Each error SELECT fills the report columns in the same way. -/
def errorRow {Columns : Type} (now : Timestamp) (columns : Columns) (message raw : String) :
    ErrorSink Columns where
  columns := columns
  errorType := "VALIDATION_ERROR"
  errorMessage := message
  rawData := raw
  isDeleted := false
  errorTimestamp := now
  createdAt := now
  updatedAt := now

/-- Each clean SELECT fills the load timestamps in the same way. -/
def cleanRow {Data : Type} (now : Timestamp) (data : Data) : CleanSink Data := ⟨data, now, now⟩

/-- The columns that `orders_source`, `orders_sink` and `orders_error_sink` share. -/
structure OrdersColumns where
  orderId : Option String
  customerId : Option String
  orderStatus : Option String
  orderPurchaseTimestamp : Option Timestamp
  orderDeliveredCustomerDate : Option Timestamp
  orderEstimatedDeliveryDate : Option Timestamp
  deriving DecidableEq

structure OrdersSource extends OrdersColumns where
  isDeleted : Option Bool
  deriving DecidableEq

structure OrdersData extends OrdersColumns where
  orderYear : Option Int
  orderMonth : Option Int
  orderDay : Option Int
  deliveryDelayDays : Option Int
  isDelivered : Bool
  isDeleted : Option Bool
  deriving DecidableEq

structure OrderItemsColumns where
  orderId : Option String
  productId : Option String
  price : Option ℚ
  freightValue : Option ℚ
  deriving DecidableEq

structure OrderItemsSource extends OrderItemsColumns where
  isDeleted : Option Bool
  deriving DecidableEq

structure OrderItemsData extends OrderItemsColumns where
  totalItemValue : Option ℚ
  priceCategory : String
  isDeleted : Option Bool
  deriving DecidableEq

structure ProductsColumns where
  productId : Option String
  productCategoryName : Option String
  deriving DecidableEq

structure ProductsSource extends ProductsColumns where
  isDeleted : Option Bool
  deriving DecidableEq

structure ProductsData extends ProductsColumns where
  categoryGroup : String
  isDeleted : Option Bool
  deriving DecidableEq

structure ReviewsColumns where
  orderId : Option String
  reviewScore : Option Int
  deriving DecidableEq

structure ReviewsSource extends ReviewsColumns where
  isDeleted : Option Bool
  deriving DecidableEq

structure ReviewsData extends ReviewsColumns where
  reviewCategory : String
  isPositiveReview : Bool
  isDeleted : Option Bool
  deriving DecidableEq

structure PaymentsColumns where
  orderId : Option String
  paymentType : Option String
  paymentValue : Option ℚ
  deriving DecidableEq

structure PaymentsSource extends PaymentsColumns where
  isDeleted : Option Bool
  deriving DecidableEq

structure PaymentsData extends PaymentsColumns where
  paymentCategory : String
  isHighValue : Bool
  isDeleted : Option Bool
  deriving DecidableEq

structure CustomersColumns where
  customerId : Option String
  customerUniqueId : Option String
  customerCity : Option String
  customerState : Option String
  deriving DecidableEq

structure CustomersSource extends CustomersColumns where
  isDeleted : Option Bool
  deriving DecidableEq

structure CustomersData extends CustomersColumns where
  stateRegion : String
  isDeleted : Option Bool
  deriving DecidableEq

section PrimaryKeys

def ordersSinkKey (row : CleanSink OrdersData) : Option String := row.data.orderId

def orderItemsSinkKey (row : CleanSink OrderItemsData) : Option String × Option String :=
  (row.data.orderId, row.data.productId)

def productsSinkKey (row : CleanSink ProductsData) : Option String := row.data.productId

def reviewsSinkKey (row : CleanSink ReviewsData) : Option String := row.data.orderId

def paymentsSinkKey (row : CleanSink PaymentsData) : Option String × Option String :=
  (row.data.orderId, row.data.paymentType)

def customersSinkKey (row : CleanSink CustomersData) : Option String := row.data.customerId

def ordersErrorSinkKey (row : ErrorSink OrdersColumns) : Option String × Timestamp :=
  (row.columns.orderId, row.errorTimestamp)

def orderItemsErrorSinkKey (row : ErrorSink OrderItemsColumns) :
    (Option String × Option String) × Timestamp :=
  ((row.columns.orderId, row.columns.productId), row.errorTimestamp)

def productsErrorSinkKey (row : ErrorSink ProductsColumns) : Option String × Timestamp :=
  (row.columns.productId, row.errorTimestamp)

def reviewsErrorSinkKey (row : ErrorSink ReviewsColumns) : Option String × Timestamp :=
  (row.columns.orderId, row.errorTimestamp)

def paymentsErrorSinkKey (row : ErrorSink PaymentsColumns) :
    (Option String × Option String) × Timestamp :=
  ((row.columns.orderId, row.columns.paymentType), row.errorTimestamp)

def customersErrorSinkKey (row : ErrorSink CustomersColumns) : Option String × Timestamp :=
  (row.columns.customerId, row.errorTimestamp)

end PrimaryKeys

end OdsPipeline.SqlQueries

namespace OdsPipeline.Postgres
open Library SqlQueries

/-- A nullable VARCHAR column becomes a nullable STRING column. -/
def toText {bound : Nat} (value : Option (Varchar bound)) : Option String := value.map Subtype.val

def OrdersRow.toSource (row : OrdersRow) : OrdersSource where
  orderId := some row.orderId.val
  customerId := toText row.customerId
  orderStatus := toText row.orderStatus
  orderPurchaseTimestamp := row.orderPurchaseTimestamp
  orderDeliveredCustomerDate := row.orderDeliveredCustomerDate
  orderEstimatedDeliveryDate := row.orderEstimatedDeliveryDate
  isDeleted := row.isDeleted

def OrderItemsRow.toSource (row : OrderItemsRow) : OrderItemsSource where
  orderId := toText row.orderId
  productId := toText row.productId
  price := row.price
  freightValue := row.freightValue
  isDeleted := row.isDeleted

def ProductsRow.toSource (row : ProductsRow) : ProductsSource where
  productId := some row.productId.val
  productCategoryName := toText row.productCategoryName
  isDeleted := row.isDeleted

def ReviewsRow.toSource (row : ReviewsRow) : ReviewsSource where
  orderId := toText row.orderId
  reviewScore := row.reviewScore
  isDeleted := row.isDeleted

def PaymentsRow.toSource (row : PaymentsRow) : PaymentsSource where
  orderId := toText row.orderId
  paymentType := toText row.paymentType
  paymentValue := row.paymentValue
  isDeleted := row.isDeleted

def CustomersRow.toSource (row : CustomersRow) : CustomersSource where
  customerId := some row.customerId.val
  customerUniqueId := toText row.customerUniqueId
  customerCity := toText row.customerCity
  customerState := toText row.customerState
  isDeleted := row.isDeleted

@[simp] theorem toText_none {bound : Nat} : toText (none : Option (Varchar bound)) = none := rfl

@[simp] theorem toText_some {bound : Nat} (value : Varchar bound) :
    toText (some value) = some value.val := rfl

@[simp] theorem toText_eq_none {bound : Nat} (value : Option (Varchar bound)) :
    toText value = none ↔ value = none := by
  cases value <;> simp

end OdsPipeline.Postgres
