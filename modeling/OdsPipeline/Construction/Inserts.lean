import OdsPipeline.Construction.Feed
import OdsPipeline.Construction.LatencyTest
import OdsPipeline.Library.Effect

/-
This file describes a transaction of the generator by its INSERT statements, and an INSERT
statement by the row that it writes.
-/

namespace OdsPipeline

namespace Postgres
open Library

/-- A row that an INSERT statement of the generator writes. -/
inductive NewRow where
  | orders (row : OrdersRow)
  | orderItems (row : OrderItemsRow)
  | payments (row : PaymentsRow)
  | customers (row : CustomersRow)
  | products (row : ProductsRow)
  deriving DecidableEq

namespace NewRow

def statement : NewRow → Statement
  | .orders row => .orders (.insert row)
  | .orderItems row => .orderItems (.insert row)
  | .payments row => .payments (.insert row)
  | .customers row => .customers (.insert row)
  | .products row => .products (.insert row)

/-- The primary key is new, and each reference names a stored row. -/
def Fits (database : Database) : NewRow → Prop
  | .orders row => database.orders.lookup row.orderId = none ∧
      References row.customerId database.customers
  | .orderItems row => database.orderItems.lookup row.id = none ∧
      References row.orderId database.orders ∧ References row.productId database.products
  | .payments row => database.payments.lookup row.id = none ∧
      References row.orderId database.orders
  | .customers row => database.customers.lookup row.customerId = none
  | .products row => database.products.lookup row.productId = none

instance (database : Database) : (row : NewRow) → Decidable (row.Fits database)
  | .orders _ => inferInstanceAs (Decidable (_ ∧ _))
  | .orderItems _ => inferInstanceAs (Decidable (_ ∧ _))
  | .payments _ => inferInstanceAs (Decidable (_ ∧ _))
  | .customers _ => inferInstanceAs (Decidable (_ = _))
  | .products _ => inferInstanceAs (Decidable (_ = _))

/-- Two rows of one table have the same primary key. -/
def Conflicts : NewRow → NewRow → Prop
  | .orders row, .orders other => row.orderId = other.orderId
  | .orderItems row, .orderItems other => row.id = other.id
  | .payments row, .payments other => row.id = other.id
  | .customers row, .customers other => row.customerId = other.customerId
  | .products row, .products other => row.productId = other.productId
  | _, _ => False

end NewRow

/-- An INSERT statement of the generator with its values. -/
inductive Insert where
  | orders (orderId : String) (customerId : Option String) (orderStatus : String)
      (orderPurchaseTimestamp : Timestamp) (orderEstimatedDeliveryDate : Option Timestamp)
  | orderItems (id : Nat) (orderId : String) (productId : Option String) (price freightValue : ℚ)
  | payments (id : Nat) (orderId paymentType : String) (paymentValue : ℚ)
  | customers (customerId customerUniqueId customerCity customerState : String)
  | products (productId productCategoryName : String)

namespace Insert

def execute : Insert → Database → Except SqlError Database
  | .orders orderId customerId orderStatus purchase estimated =>
      insertOrders orderId customerId orderStatus purchase estimated
  | .orderItems id orderId productId price freightValue =>
      insertOrderItems id orderId productId price freightValue
  | .payments id orderId paymentType paymentValue =>
      insertPayments id orderId paymentType paymentValue
  | .customers customerId uniqueId city state => insertCustomers customerId uniqueId city state
  | .products productId categoryName => insertProducts productId categoryName

/-- The row of a statement whose texts fit into their columns. -/
def row : Insert → Except SqlError NewRow
  | .orders orderId customerId orderStatus purchase estimated => do
      return .orders {
        orderId := ← assignVarchar 50 orderId
        customerId := ← assignNullable 50 customerId
        orderStatus := some (← assignVarchar 20 orderStatus)
        orderPurchaseTimestamp := some purchase
        orderDeliveredCustomerDate := none
        orderEstimatedDeliveryDate := estimated
        isDeleted := some false }
  | .orderItems id orderId productId price freightValue => do
      return .orderItems {
        id := id
        orderId := some (← assignVarchar 50 orderId)
        productId := ← assignNullable 50 productId
        price := some price
        freightValue := some freightValue
        isDeleted := some false }
  | .payments id orderId paymentType paymentValue => do
      return .payments {
        id := id
        orderId := some (← assignVarchar 50 orderId)
        paymentType := some (← assignVarchar 20 paymentType)
        paymentValue := some paymentValue
        isDeleted := some false }
  | .customers customerId uniqueId city state => do
      return .customers {
        customerId := ← assignVarchar 50 customerId
        customerUniqueId := some (← assignVarchar 50 uniqueId)
        customerCity := some (← assignVarchar 100 city)
        customerState := some (← assignVarchar 10 state)
        isDeleted := some false }
  | .products productId categoryName => do
      return .products {
        productId := ← assignVarchar 50 productId
        productCategoryName := some (← assignVarchar 100 categoryName)
        isDeleted := some false }

end Insert

/-- The statements of a transaction run one after another, and the first fault stops them. -/
def replay (inserts : List (Option SqlError × Insert)) (database : Database) :
    Except SqlError Database :=
  inserts.foldlM (fun view insert => Program.attempt insert.1 insert.2.execute view) database

end Postgres

namespace DataGenerator
open Library Postgres Program

section Orders
variable (draws : OrderDraws) (generator : Generator)

def orderInsert : Insert :=
  .orders draws.orderId (getRandomCustomerId draws.customer generator.existingCustomers)
    (statuses.get draws.status) draws.now
    (some (draws.now + dayMillis * (3 + draws.deliveryDays.val)))

def itemInsert (i : Nat) : Insert :=
  let item := draws.item i
  .orderItems item.id draws.orderId (getRandomProductId item.product generator.existingProducts)
    (roundCents item.priceValue) (roundCents item.freightValue)

/-- The total that the item loop has added up. -/
def totalOrderValue (rounds : List Nat) (start : ℚ) : ℚ :=
  rounds.foldl (fun total i => total + ((draws.item i).priceValue + (draws.item i).freightValue))
    start

def paymentInsert : Insert :=
  .payments draws.paymentId draws.orderId (paymentTypes.get draws.paymentType)
    (roundCents (totalOrderValue draws (List.range draws.numItems) 0))

/-- The statements of `generateOrder` with their faults. -/
def purchaseInserts : List (Option SqlError × Insert) :=
  (draws.orderFault, orderInsert draws generator) ::
    ((List.range draws.numItems).map fun i => ((draws.item i).fault, itemInsert draws generator i)) ++
    [(draws.paymentFault, paymentInsert draws)]

end Orders

section Test
variable (draws : TestDraws)

/-- The statements of `insertTestOrder` with their faults. -/
def testInserts (orderId : String) (customerId productId : Option String) :
    List (Option SqlError × Insert) :=
  [(draws.orderFault, .orders orderId customerId "pending" draws.now none),
   (draws.itemFault, .orderItems draws.itemId orderId productId (9999 / 100) (999 / 100)),
   (draws.paymentFault, .payments draws.paymentId orderId "credit_card" (10998 / 100))]

end Test

end DataGenerator

end OdsPipeline
