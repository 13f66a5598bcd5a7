import OdsPipeline.Construction.Postgres

/-
This file contains the INSERT statements that the generator sends to `01-schema.sql`.
A serial key takes the next value of its sequence, which is a parameter here.
-/

namespace OdsPipeline.Postgres
open Library

inductive SqlError where
  | connectionFailure
  | stringDataRightTruncation
  | uniqueViolation (constraint : String)
  | notNullViolation (column : String)
  | foreignKeyViolation (constraint : String)
  | invalidColumnReference
  deriving DecidableEq, Repr

/-- A text that is too long loses spaces at its end, and is an error without enough of them. -/
def assignVarchar (bound : Nat) (text : String) : Except SqlError (Varchar bound) :=
  if fits : text.length ≤ bound then .ok ⟨text, fits⟩
  else if (text.toList.drop bound).all (· = ' ') then
    .ok ⟨String.ofList (text.toList.take bound), by simp⟩
  else .error .stringDataRightTruncation

/-- NULL has no length. -/
def assignNullable (bound : Nat) : Option String → Except SqlError (Option (Varchar bound))
  | none => .ok none
  | some text => (assignVarchar bound text).map some

section Rows
variable {Row Key : Type} [DecidableEq Key] {keyOf : Row → Key}

/-- A new row needs a new primary key. -/
def insertRow (constraint : String) (table : KeyedTable keyOf) (row : Row) :
    Except SqlError (KeyedTable keyOf) :=
  if (table.lookup (keyOf row)).isSome then .error (.uniqueViolation constraint)
  else .ok (table.upsert row)

def checkReference (constraint : String) (reference : Option Key) (table : KeyedTable keyOf) :
    Except SqlError Unit :=
  if References reference table then .ok () else .error (.foreignKeyViolation constraint)

end Rows

/-- INSERT INTO orders. The columns that are not named are NULL or have their default. -/
def insertOrders (orderId : String) (customerId : Option String) (orderStatus : String)
    (orderPurchaseTimestamp : Timestamp) (orderEstimatedDeliveryDate : Option Timestamp)
    (database : Database) : Except SqlError Database := do
  let orderId ← assignVarchar 50 orderId
  let customerId ← assignNullable 50 customerId
  let orderStatus ← assignVarchar 20 orderStatus
  let orders ← insertRow "orders_pkey" database.orders {
    orderId := orderId
    customerId := customerId
    orderStatus := some orderStatus
    orderPurchaseTimestamp := some orderPurchaseTimestamp
    orderDeliveredCustomerDate := none
    orderEstimatedDeliveryDate := orderEstimatedDeliveryDate
    isDeleted := some false }
  checkReference "fk_orders_customer" customerId database.customers
  return { database with orders := orders }

/-- INSERT INTO order_items. -/
def insertOrderItems (id : Nat) (orderId : String) (productId : Option String)
    (price freightValue : ℚ) (database : Database) : Except SqlError Database := do
  let orderId ← assignVarchar 50 orderId
  let productId ← assignNullable 50 productId
  let orderItems ← insertRow "order_items_pkey" database.orderItems {
    id := id
    orderId := some orderId
    productId := productId
    price := some price
    freightValue := some freightValue
    isDeleted := some false }
  checkReference "fk_order_items_order" (some orderId) database.orders
  checkReference "fk_order_items_product" productId database.products
  return { database with orderItems := orderItems }

/-- INSERT INTO payments. -/
def insertPayments (id : Nat) (orderId paymentType : String) (paymentValue : ℚ)
    (database : Database) : Except SqlError Database := do
  let orderId ← assignVarchar 50 orderId
  let paymentType ← assignVarchar 20 paymentType
  let payments ← insertRow "payments_pkey" database.payments {
    id := id
    orderId := some orderId
    paymentType := some paymentType
    paymentValue := some paymentValue
    isDeleted := some false }
  checkReference "fk_payments_order" (some orderId) database.orders
  return { database with payments := payments }

/-- INSERT INTO customers. -/
def insertCustomers (customerId customerUniqueId customerCity customerState : String)
    (database : Database) : Except SqlError Database := do
  let customers ← insertRow "customers_pkey" database.customers {
    customerId := ← assignVarchar 50 customerId
    customerUniqueId := some (← assignVarchar 50 customerUniqueId)
    customerCity := some (← assignVarchar 100 customerCity)
    customerState := some (← assignVarchar 10 customerState)
    isDeleted := some false }
  return { database with customers := customers }

/-- INSERT INTO products. -/
def insertProducts (productId productCategoryName : String) (database : Database) :
    Except SqlError Database := do
  let products ← insertRow "products_pkey" database.products {
    productId := ← assignVarchar 50 productId
    productCategoryName := some (← assignVarchar 100 productCategoryName)
    isDeleted := some false }
  return { database with products := products }

/-- The column lists of the unique indexes on reviews. -/
def reviewsUniqueIndexes : List (List String) := [["review_id"]]

/-- INSERT INTO reviews with ON CONFLICT DO NOTHING on a list of columns.
The conflict columns need a unique index of their own. -/
def insertReviews (reviewId : Option String) (orderId : String) (reviewScore : Int)
    (conflictColumns : List String) (database : Database) : Except SqlError Database :=
  if conflictColumns ∉ reviewsUniqueIndexes then .error .invalidColumnReference
  else match reviewId with
    | none => .error (.notNullViolation "review_id")
    | some reviewId => do
        let reviewId ← assignVarchar 50 reviewId
        let orderId ← assignVarchar 50 orderId
        if (database.reviews.lookup reviewId).isSome then return database
        let reviews ← insertRow "reviews_pkey" database.reviews {
          reviewId := reviewId
          orderId := some orderId
          reviewScore := some reviewScore
          isDeleted := some false }
        checkReference "fk_reviews_order" (some orderId) database.orders
        return { database with reviews := reviews }

section Rules
variable {Row Key : Type} [DecidableEq Key] {keyOf : Row → Key}

/-- A text without spaces is stored as it is. -/
theorem assignVarchar_eq (bound : Nat) (text : String) (value : Varchar bound)
    (solid : ' ' ∉ text.toList) (assigned : assignVarchar bound text = .ok value) :
    value.val = text := by
  unfold assignVarchar at assigned
  split at assigned
  · next fits =>
      cases assigned
      rfl
  · next long =>
      have excess : text.toList.drop bound ≠ [] := by
        intro none
        rw [List.drop_eq_nil_iff, String.length_toList] at none
        exact long none
      obtain ⟨letter, inside⟩ := List.exists_mem_of_ne_nil _ excess
      split at assigned
      · next spaces =>
          have space : letter = ' ' := by simpa using List.all_eq_true.mp spaces letter inside
          exact absurd (List.mem_of_mem_drop (space ▸ inside)) solid
      · cases assigned

/-- A new row stands behind the stored rows. -/
theorem insertRow_rows (constraint : String) (table next : KeyedTable keyOf) (row : Row)
    (inserted : insertRow constraint table row = .ok next) : next.rows = table.rows ++ [row] := by
  unfold insertRow at inserted
  split at inserted
  · cases inserted
  · next fresh =>
      cases inserted
      rw [Bool.not_eq_true, Option.isSome_eq_false_iff, Option.isNone_iff_eq_none,
        KeyedTable.lookup_eq_none_iff] at fresh
      change (table.delete (keyOf row)).rows ++ [row] = _
      congr 1
      apply List.filter_eq_self.mpr
      intro old stored
      exact decide_eq_true (fresh old stored)

end Rules

end OdsPipeline.Postgres
