import Mathlib.Algebra.Order.Ring.Rat
import OdsPipeline.Library.Calendar
import OdsPipeline.Library.KeyedTable
import OdsPipeline.Library.Text

/-
This file contains the source tables of `01-schema.sql`.
A column that no later stage reads is left out.
-/

namespace OdsPipeline.Postgres
open Library

structure OrdersRow where
  orderId : Varchar 50
  customerId : Option (Varchar 50)
  orderStatus : Option (Varchar 20)
  orderPurchaseTimestamp : Option Timestamp
  orderDeliveredCustomerDate : Option Timestamp
  orderEstimatedDeliveryDate : Option Timestamp
  isDeleted : Option Bool
  deriving DecidableEq

structure CustomersRow where
  customerId : Varchar 50
  customerUniqueId : Option (Varchar 50)
  customerCity : Option (Varchar 100)
  customerState : Option (Varchar 10)
  isDeleted : Option Bool
  deriving DecidableEq

/-- The primary key is a serial number and not a pair of references. -/
structure OrderItemsRow where
  id : Nat
  orderId : Option (Varchar 50)
  productId : Option (Varchar 50)
  price : Option ℚ
  freightValue : Option ℚ
  isDeleted : Option Bool
  deriving DecidableEq

structure PaymentsRow where
  id : Nat
  orderId : Option (Varchar 50)
  paymentType : Option (Varchar 20)
  paymentValue : Option ℚ
  isDeleted : Option Bool
  deriving DecidableEq

structure ReviewsRow where
  reviewId : Varchar 50
  orderId : Option (Varchar 50)
  reviewScore : Option Int
  isDeleted : Option Bool
  deriving DecidableEq

structure ProductsRow where
  productId : Varchar 50
  productCategoryName : Option (Varchar 100)
  isDeleted : Option Bool
  deriving DecidableEq

/-- Each table keeps its primary key distinct. -/
structure Database where
  orders : KeyedTable OrdersRow.orderId
  customers : KeyedTable CustomersRow.customerId
  orderItems : KeyedTable OrderItemsRow.id
  payments : KeyedTable PaymentsRow.id
  reviews : KeyedTable ReviewsRow.reviewId
  products : KeyedTable ProductsRow.productId

/-- A nullable reference names a stored row or is NULL. -/
def References {Row Key : Type} [DecidableEq Key] {keyOf : Row → Key} (reference : Option Key)
    (table : KeyedTable keyOf) : Prop :=
  ∀ key ∈ reference, (table.lookup key).isSome

instance {Row Key : Type} [DecidableEq Key] {keyOf : Row → Key} (reference : Option Key)
    (table : KeyedTable keyOf) : Decidable (References reference table) :=
  inferInstanceAs (Decidable (∀ key ∈ reference, _))

/-- The foreign keys of the tables above. -/
structure Database.ForeignKeys (database : Database) : Prop where
  ordersCustomer : ∀ row ∈ database.orders.rows, References row.customerId database.customers
  orderItemsOrder : ∀ row ∈ database.orderItems.rows, References row.orderId database.orders
  orderItemsProduct : ∀ row ∈ database.orderItems.rows, References row.productId database.products
  paymentsOrder : ∀ row ∈ database.payments.rows, References row.orderId database.orders
  reviewsOrder : ∀ row ∈ database.reviews.rows, References row.orderId database.orders

section Values

/-- The rows of the counterexamples hold these values. -/
def orderOne : Varchar 50 := ⟨"o1", by decide⟩

def customerOne : Varchar 50 := ⟨"c1", by decide⟩

def personOne : Varchar 50 := ⟨"u1", by decide⟩

def productOne : Varchar 50 := ⟨"p1", by decide⟩

def reviewOne : Varchar 50 := ⟨"r1", by decide⟩

def reviewTwo : Varchar 50 := ⟨"r2", by decide⟩

def lost : Varchar 20 := ⟨"lost", by decide⟩

def shipped : Varchar 20 := ⟨"shipped", by decide⟩

def creditCard : Varchar 20 := ⟨"credit_card", by decide⟩

def voucher : Varchar 20 := ⟨"voucher", by decide⟩

def toys : Varchar 100 := ⟨"toys", by decide⟩

def lima : Varchar 100 := ⟨"Lima", by decide⟩

def saoPaulo : Varchar 10 := ⟨"SP", by decide⟩

end Values

end OdsPipeline.Postgres
