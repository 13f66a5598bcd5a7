import OdsPipeline.Construction.Feed
import OdsPipeline.Construction.PostgresInserts
import OdsPipeline.Library.Script

/-
This file contains the statements of `02-sample-data.sql`.
A line of a file is given as COPY has split it and converted its numbers and times.
-/

namespace OdsPipeline.SampleData
open Library Postgres

section Lines

/-- A line that COPY cannot convert has a fault. -/
abbrev Line (Fields : Type) := Except SqlError Fields

structure CustomersLine where
  customerId : Option String
  customerUniqueId : Option String
  customerCity : Option String
  customerState : Option String

structure SellersLine where
  sellerId : Option String

structure ProductsLine where
  productId : Option String
  productCategoryName : Option String

structure OrdersLine where
  orderId : Option String
  customerId : Option String
  orderStatus : Option String
  orderPurchaseTimestamp : Option Timestamp
  orderDeliveredCustomerDate : Option Timestamp
  orderEstimatedDeliveryDate : Option Timestamp

structure OrderItemsLine where
  orderId : Option String
  productId : Option String
  sellerId : Option String
  price : Option ℚ
  freightValue : Option ℚ

structure PaymentsLine where
  orderId : Option String
  paymentType : Option String
  paymentValue : Option ℚ

structure ReviewsLine where
  reviewId : Option String
  orderId : Option String
  reviewScore : Option Int

/-- The lines behind the headers of the seven files. -/
structure Files where
  customers : List (Line CustomersLine)
  sellers : List (Line SellersLine)
  products : List (Line ProductsLine)
  orders : List (Line OrdersLine)
  orderItems : List (Line OrderItemsLine)
  payments : List (Line PaymentsLine)
  reviews : List (Line ReviewsLine)

end Lines

section Rows

/-- No job reads the sellers. -/
structure SellersRow where
  sellerId : Varchar 50
  deriving DecidableEq

/-- The seller of an item is checked and not read again. -/
structure ItemWithSeller where
  item : OrderItemsRow
  sellerId : Option (Varchar 50)
  deriving DecidableEq

/-- `temp_reviews` has no constraint. -/
structure TempReview where
  reviewId : Option (Varchar 50)
  orderId : Option (Varchar 50)
  reviewScore : Option Int
  deriving DecidableEq

/-- A primary key is not NULL. -/
def assignKey (bound : Nat) (column : String) : Option String → Except SqlError (Varchar bound)
  | none => .error (.notNullViolation column)
  | some text => assignVarchar bound text

def CustomersLine.row (line : CustomersLine) : Except SqlError CustomersRow := do
  return {
    customerId := ← assignKey 50 "customer_id" line.customerId
    customerUniqueId := ← assignNullable 50 line.customerUniqueId
    customerCity := ← assignNullable 100 line.customerCity
    customerState := ← assignNullable 10 line.customerState
    isDeleted := some false }

def SellersLine.row (line : SellersLine) : Except SqlError SellersRow := do
  return { sellerId := ← assignKey 50 "seller_id" line.sellerId }

def ProductsLine.row (line : ProductsLine) : Except SqlError ProductsRow := do
  return {
    productId := ← assignKey 50 "product_id" line.productId
    productCategoryName := ← assignNullable 100 line.productCategoryName
    isDeleted := some false }

def OrdersLine.row (line : OrdersLine) : Except SqlError OrdersRow := do
  return {
    orderId := ← assignKey 50 "order_id" line.orderId
    customerId := ← assignNullable 50 line.customerId
    orderStatus := ← assignNullable 20 line.orderStatus
    orderPurchaseTimestamp := line.orderPurchaseTimestamp
    orderDeliveredCustomerDate := line.orderDeliveredCustomerDate
    orderEstimatedDeliveryDate := line.orderEstimatedDeliveryDate
    isDeleted := some false }

/-- The serial key counts the lines. -/
def OrderItemsLine.row (line : OrderItemsLine) (id : Nat) : Except SqlError ItemWithSeller := do
  return {
    item := {
      id := id
      orderId := ← assignNullable 50 line.orderId
      productId := ← assignNullable 50 line.productId
      price := line.price
      freightValue := line.freightValue
      isDeleted := some false }
    sellerId := ← assignNullable 50 line.sellerId }

def PaymentsLine.row (line : PaymentsLine) (id : Nat) : Except SqlError PaymentsRow := do
  return {
    id := id
    orderId := ← assignNullable 50 line.orderId
    paymentType := ← assignNullable 20 line.paymentType
    paymentValue := line.paymentValue
    isDeleted := some false }

def ReviewsLine.row (line : ReviewsLine) : Except SqlError TempReview := do
  return {
    reviewId := ← assignNullable 50 line.reviewId
    orderId := ← assignNullable 50 line.orderId
    reviewScore := line.reviewScore }

/-- The rows of a file whose lines can all be read. -/
def readLines {Fields Row : Type} (row : Fields → Except SqlError Row)
    (lines : List (Line Fields)) : Except SqlError (List Row) :=
  lines.mapM fun line => line >>= row

/-- The rows of a file whose table has a serial key, which starts at 1. -/
def readNumberedLines {Fields Row : Type} (row : Fields → Nat → Except SqlError Row)
    (lines : List (Line Fields)) : Except SqlError (List Row) :=
  (lines.zipIdx 1).mapM fun entry => entry.1 >>= fun fields => row fields entry.2

end Rows

/-- The database while the script runs. -/
structure Loading where
  database : Database
  sellers : KeyedTable SellersRow.sellerId
  tempReviews : List TempReview

def Loading.start : Loading := ⟨Database.empty, KeyedTable.empty _, []⟩

abbrev LoadStatement := AtomicStatement Loading SqlError

section Statements

/-- COPY stores its rows one after another. -/
def copyRows {Row Key : Type} [DecidableEq Key] {keyOf : Row → Key} (constraint : String)
    (table : KeyedTable keyOf) (rows : List Row) : Except SqlError (KeyedTable keyOf) :=
  rows.foldlM (insertRow constraint) table

/-- A foreign key is checked for all rows at the end of the statement. -/
def checkReferences {Row Key : Type} [DecidableEq Key] {keyOf : Row → Key} (constraint : String)
    (references : List (Option Key)) (table : KeyedTable keyOf) : Except SqlError Unit :=
  references.forM fun reference => checkReference constraint reference table

def copyCustomers (lines : List (Line CustomersLine)) : LoadStatement := fun loading => do
  let rows ← readLines CustomersLine.row lines
  let customers ← copyRows "customers_pkey" loading.database.customers rows
  return { loading with database := { loading.database with customers := customers } }

def copySellers (lines : List (Line SellersLine)) : LoadStatement := fun loading => do
  let rows ← readLines SellersLine.row lines
  let sellers ← copyRows "sellers_pkey" loading.sellers rows
  return { loading with sellers := sellers }

def copyProducts (lines : List (Line ProductsLine)) : LoadStatement := fun loading => do
  let rows ← readLines ProductsLine.row lines
  let products ← copyRows "products_pkey" loading.database.products rows
  return { loading with database := { loading.database with products := products } }

def copyOrders (lines : List (Line OrdersLine)) : LoadStatement := fun loading => do
  let rows ← readLines OrdersLine.row lines
  let orders ← copyRows "orders_pkey" loading.database.orders rows
  checkReferences "fk_orders_customer" (rows.map OrdersRow.customerId) loading.database.customers
  return { loading with database := { loading.database with orders := orders } }

def copyOrderItems (lines : List (Line OrderItemsLine)) : LoadStatement := fun loading => do
  let rows ← readNumberedLines OrderItemsLine.row lines
  let items := rows.map ItemWithSeller.item
  let orderItems ← copyRows "order_items_pkey" loading.database.orderItems items
  checkReferences "fk_order_items_order" (items.map OrderItemsRow.orderId) loading.database.orders
  checkReferences "fk_order_items_product" (items.map OrderItemsRow.productId)
    loading.database.products
  checkReferences "fk_order_items_seller" (rows.map ItemWithSeller.sellerId) loading.sellers
  return { loading with database := { loading.database with orderItems := orderItems } }

def copyPayments (lines : List (Line PaymentsLine)) : LoadStatement := fun loading => do
  let rows ← readNumberedLines PaymentsLine.row lines
  let payments ← copyRows "payments_pkey" loading.database.payments rows
  checkReferences "fk_payments_order" (rows.map PaymentsRow.orderId) loading.database.orders
  return { loading with database := { loading.database with payments := payments } }

def copyTempReviews (lines : List (Line ReviewsLine)) : LoadStatement := fun loading => do
  let rows ← readLines ReviewsLine.row lines
  return { loading with tempReviews := loading.tempReviews ++ rows }

/-- The row that INSERT INTO reviews makes of a picked row. -/
def TempReview.row (review : TempReview) : Except SqlError ReviewsRow :=
  match review.reviewId with
  | none => .error (.notNullViolation "review_id")
  | some reviewId => .ok {
      reviewId := reviewId
      orderId := review.orderId
      reviewScore := review.reviewScore
      isDeleted := some false }

/-- ON CONFLICT (review_id) DO NOTHING leaves out the rows of stored reviews. -/
def insertReviews (distinctOn : DistinctOn TempReview.reviewId) : LoadStatement :=
    fun loading => do
  let rows ← (distinctOn.pick loading.tempReviews).mapM TempReview.row
  let fresh := rows.filter fun row => (loading.database.reviews.lookup row.reviewId).isNone
  let reviews ← copyRows "reviews_pkey" loading.database.reviews fresh
  checkReferences "fk_reviews_order" (fresh.map ReviewsRow.orderId) loading.database.orders
  return { loading with database := { loading.database with reviews := reviews } }

end Statements

/-- The script up to ANALYZE, which changes no row. -/
def statements (files : Files) (distinctOn : DistinctOn TempReview.reviewId) :
    List LoadStatement :=
  [copyCustomers files.customers, copySellers files.sellers, copyProducts files.products,
   copyOrders files.orders, copyOrderItems files.orderItems, copyPayments files.payments,
   copyTempReviews files.reviews, insertReviews distinctOn]

/-- The script runs on the tables of `01-schema.sql`. -/
def loadSampleData (onErrorStop : Bool) (files : Files)
    (distinctOn : DistinctOn TempReview.reviewId) : Loading × List SqlError :=
  runScript onErrorStop (statements files distinctOn) Loading.start

end OdsPipeline.SampleData
