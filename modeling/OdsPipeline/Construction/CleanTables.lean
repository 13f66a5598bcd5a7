import OdsPipeline.Construction.SqlQueries

/-
This file contains the rows that the clean tables store once NOT NULL holds.
A column that no view reads is left out.
-/

namespace OdsPipeline.StarRocks
open Library SqlQueries

structure OdsOrders where
  orderId : String
  customerId : String
  orderStatus : String
  orderPurchaseTimestamp : Timestamp
  orderDeliveredCustomerDate : Option Timestamp
  orderEstimatedDeliveryDate : Option Timestamp
  isDeleted : Bool
  deriving DecidableEq

structure OdsOrderItems where
  orderId : String
  productId : String
  price : ℚ
  totalItemValue : ℚ
  isDeleted : Bool
  deriving DecidableEq

structure OdsProducts where
  productId : String
  productCategoryName : String
  categoryGroup : String
  isDeleted : Bool
  deriving DecidableEq

structure OdsPayments where
  orderId : String
  paymentType : String
  paymentValue : ℚ
  isDeleted : Bool
  deriving DecidableEq

/-- Each table keeps its primary key distinct. -/
structure CleanTables where
  orders : KeyedTable OdsOrders.orderId
  orderItems : KeyedTable fun row : OdsOrderItems => (row.orderId, row.productId)
  products : KeyedTable OdsProducts.productId
  payments : KeyedTable fun row : OdsPayments => (row.orderId, row.paymentType)

section Stored

/-- A clean row is stored when each NOT NULL column has a value. -/
def OdsOrders.ofData (data : OrdersData) : Option OdsOrders := do
  return {
    orderId := ← data.orderId
    customerId := ← data.customerId
    orderStatus := ← data.orderStatus
    orderPurchaseTimestamp := ← data.orderPurchaseTimestamp
    orderDeliveredCustomerDate := data.orderDeliveredCustomerDate
    orderEstimatedDeliveryDate := data.orderEstimatedDeliveryDate
    isDeleted := ← data.isDeleted }

def OdsOrderItems.ofData (data : OrderItemsData) : Option OdsOrderItems := do
  let orderId ← data.orderId
  let productId ← data.productId
  let price ← data.price
  let _ ← data.freightValue
  let totalItemValue ← data.totalItemValue
  let isDeleted ← data.isDeleted
  return { orderId, productId, price, totalItemValue, isDeleted }

def OdsProducts.ofData (data : ProductsData) : Option OdsProducts := do
  return {
    productId := ← data.productId
    productCategoryName := ← data.productCategoryName
    categoryGroup := data.categoryGroup
    isDeleted := ← data.isDeleted }

def OdsPayments.ofData (data : PaymentsData) : Option OdsPayments := do
  return {
    orderId := ← data.orderId
    paymentType := ← data.paymentType
    paymentValue := ← data.paymentValue
    isDeleted := ← data.isDeleted }

/-- A stored order has the values of its clean data. -/
theorem OdsOrders.ofData_eq_some_iff (data : OrdersData) (stored : OdsOrders) :
    ofData data = some stored ↔ data.orderId = some stored.orderId ∧
      data.customerId = some stored.customerId ∧ data.orderStatus = some stored.orderStatus ∧
      data.orderPurchaseTimestamp = some stored.orderPurchaseTimestamp ∧
      data.orderDeliveredCustomerDate = stored.orderDeliveredCustomerDate ∧
      data.orderEstimatedDeliveryDate = stored.orderEstimatedDeliveryDate ∧
      data.isDeleted = some stored.isDeleted := by
  constructor
  · intro kept
    simp only [ofData, Option.bind_eq_bind, Option.bind_eq_some_iff, Option.pure_def,
      Option.some.injEq] at kept
    obtain ⟨_, order, _, customer, _, status, _, purchase, _, deleted, rfl⟩ := kept
    exact ⟨order, customer, status, purchase, rfl, rfl, deleted⟩
  · intro ⟨order, customer, status, purchase, delivered, estimated, deleted⟩
    rw [ofData, order, customer, status, purchase, delivered, estimated, deleted]
    rfl

/-- A stored payment has the values of its clean data. -/
theorem OdsPayments.ofData_eq_some_iff (data : PaymentsData) (stored : OdsPayments) :
    ofData data = some stored ↔ data.orderId = some stored.orderId ∧
      data.paymentType = some stored.paymentType ∧ data.paymentValue = some stored.paymentValue ∧
      data.isDeleted = some stored.isDeleted := by
  constructor
  · intro kept
    simp only [ofData, Option.bind_eq_bind, Option.bind_eq_some_iff, Option.pure_def,
      Option.some.injEq] at kept
    obtain ⟨_, order, _, type, _, value, _, deleted, rfl⟩ := kept
    exact ⟨order, type, value, deleted⟩
  · intro ⟨order, type, value, deleted⟩
    rw [ofData, order, type, value, deleted]
    rfl

/-- A stored row keeps the primary key of its clean sink. -/
theorem OdsOrders.key_ofData (row : CleanSink OrdersData) (stored : OdsOrders)
    (kept : OdsOrders.ofData row.data = some stored) : ordersSinkKey row = some stored.orderId :=
  ((ofData_eq_some_iff _ _).mp kept).1

theorem OdsOrderItems.key_ofData (row : CleanSink OrderItemsData) (stored : OdsOrderItems)
    (kept : OdsOrderItems.ofData row.data = some stored) :
    orderItemsSinkKey row = (some stored.orderId, some stored.productId) := by
  simp only [ofData, Option.bind_eq_bind, Option.bind_eq_some_iff, Option.pure_def,
    Option.some.injEq] at kept
  obtain ⟨order, foundOrder, product, foundProduct, _, -, _, -, _, -, _, -, rfl⟩ := kept
  exact Prod.ext foundOrder foundProduct

theorem OdsProducts.key_ofData (row : CleanSink ProductsData) (stored : OdsProducts)
    (kept : OdsProducts.ofData row.data = some stored) :
    productsSinkKey row = some stored.productId := by
  simp only [ofData, Option.bind_eq_bind, Option.bind_eq_some_iff, Option.pure_def,
    Option.some.injEq] at kept
  obtain ⟨product, found, _, -, _, -, rfl⟩ := kept
  exact found

theorem OdsPayments.key_ofData (row : CleanSink PaymentsData) (stored : OdsPayments)
    (kept : OdsPayments.ofData row.data = some stored) :
    paymentsSinkKey row = (some stored.orderId, some stored.paymentType) := by
  obtain ⟨order, type, -⟩ := (ofData_eq_some_iff _ _).mp kept
  exact Prod.ext order type

/-- The clean tables store the rows that the clean sinks hold. -/
def CleanTables.ofSinks (orders : KeyedTable ordersSinkKey)
    (orderItems : KeyedTable orderItemsSinkKey) (products : KeyedTable productsSinkKey)
    (payments : KeyedTable paymentsSinkKey) : CleanTables where
  orders := orders.collect (fun row => OdsOrders.ofData row.data) _ some OdsOrders.key_ofData
  orderItems := orderItems.collect (fun row => OdsOrderItems.ofData row.data) _
    (fun key => (some key.1, some key.2)) OdsOrderItems.key_ofData
  products := products.collect (fun row => OdsProducts.ofData row.data) _ some
    OdsProducts.key_ofData
  payments := payments.collect (fun row => OdsPayments.ofData row.data) _
    (fun key => (some key.1, some key.2)) OdsPayments.key_ofData

end Stored

section Values

/-- The tables of the counterexamples hold these rows. -/
def oneDelivered : KeyedTable OdsOrders.orderId :=
  ⟨[⟨"o1", "c1", "delivered", 0, none, none, false⟩], by decide⟩

def twoDelivered : KeyedTable OdsOrders.orderId :=
  ⟨[⟨"o1", "c1", "delivered", 0, none, none, false⟩,
    ⟨"o2", "c1", "delivered", 0, none, none, false⟩], by decide⟩

/-- A lamp and a sofa are two names of one group. -/
def lampAndSofa : KeyedTable OdsProducts.productId :=
  ⟨[⟨"p1", "casa_conforto", "Home", false⟩, ⟨"p2", "casa_construcao", "Home", false⟩], by decide⟩

end Values

end OdsPipeline.StarRocks
