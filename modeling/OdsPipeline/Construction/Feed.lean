import OdsPipeline.Construction.OdsETLJob
import OdsPipeline.Library.Replica

/-
This file connects each source table with the job that reads its changelog.
The replication slots are independent, so each job has read its own part of its changelog.
-/

namespace OdsPipeline

namespace Postgres
open Library

/-- A statement changes one row of one source table. -/
inductive Statement where
  | orders (commit : Commit OrdersRow (Varchar 50))
  | orderItems (commit : Commit OrderItemsRow Nat)
  | products (commit : Commit ProductsRow (Varchar 50))
  | reviews (commit : Commit ReviewsRow (Varchar 50))
  | payments (commit : Commit PaymentsRow Nat)
  | customers (commit : Commit CustomersRow (Varchar 50))

namespace Database

/-- The database before its first row. -/
def empty : Database where
  orders := KeyedTable.empty _
  customers := KeyedTable.empty _
  orderItems := KeyedTable.empty _
  payments := KeyedTable.empty _
  reviews := KeyedTable.empty _
  products := KeyedTable.empty _

def commit (database : Database) : Statement → Database
  | .orders own => { database with orders := database.orders.commit own }
  | .orderItems own => { database with orderItems := database.orderItems.commit own }
  | .products own => { database with products := database.products.commit own }
  | .reviews own => { database with reviews := database.reviews.commit own }
  | .payments own => { database with payments := database.payments.commit own }
  | .customers own => { database with customers := database.customers.commit own }

def commitAll (database : Database) (history : List Statement) : Database :=
  history.foldl commit database

end Database

end Postgres

open Library SqlQueries Postgres OdsETLJob

/-- A feed carries one source table to one clean table. -/
structure Feed (Row Key Source Data Columns CleanKey ErrorKey : Type) [DecidableEq Key]
    [DecidableEq CleanKey] where
  processor : Processor Source Data Columns CleanKey ErrorKey
  toSource : Row → Source
  keyOf : Row → Key
  cleanSelect : Source → Data
  dataKey : Data → CleanKey
  keeps : (processor.clean.comap toSource).KeepsData CleanSink.data dataKey
    fun row => cleanSelect (toSource row)
  source : Database → KeyedTable keyOf
  startsEmpty : source Database.empty = KeyedTable.empty keyOf
  statement : Statement → Option (Commit Row Key)
  reached : ∀ database next own, statement next = some own →
    source (database.commit next) = (source database).commit own
  passed : ∀ database next, statement next = none →
    source (database.commit next) = source database
  clean : Jobs → KeyedTable processor.clean.primaryKey
  mainEmpty : clean main = KeyedTable.empty processor.clean.primaryKey
  tag : Change Source → OdsETLJob.Record
  record : Timestamp × OdsETLJob.Record → Option (Timestamp × Change Source)
  record_tag : ∀ now change, record (now, tag change) = some (now, change)
  processed : ∀ jobs arrived change, record arrived = some change →
    clean (jobs.process arrived.1 arrived.2) = processor.clean.deliver true (clean jobs) [change]
  skipped : ∀ jobs arrived, record arrived = none →
    clean (jobs.process arrived.1 arrived.2) = clean jobs

namespace Feed
variable {Row Key Source Data Columns CleanKey ErrorKey : Type} [DecidableEq Key]
  [DecidableEq CleanKey] (feed : Feed Row Key Source Data Columns CleanKey ErrorKey)

/-- The statements of the source table of the feed. -/
def own (history : List Statement) : List (Commit Row Key) := history.filterMap feed.statement

/-- The records that the replication slot of the feed holds after a history. -/
def changelog (history : List Statement) : List (Change Source) :=
  ((KeyedTable.empty feed.keyOf).changelog (feed.own history)).map (Change.map feed.toSource)

/-- The records of the feed among the records of all jobs. -/
def arrived (records : List (Timestamp × OdsETLJob.Record)) : List (Change Source) :=
  (records.filterMap feed.record).map Prod.snd

def passes (row : Row) : Bool := (feed.processor.clean.comap feed.toSource).passes row

def cleanData (row : Row) : Data := feed.cleanSelect (feed.toSource row)

/-- The primary key of the clean table that a source row gets. -/
def cleanKey (row : Row) : CleanKey := feed.dataKey (feed.cleanData row)

/-- The clean table holds the clean data of each valid source row once, and nothing else. -/
def Holds (database : Database) (jobs : Jobs) : Prop :=
  ((feed.clean jobs).rows.map CleanSink.data).Perm
    (((feed.source database).rows.filter feed.passes).map feed.cleanData)

/-- No statement of the history invalidates a row, moves a clean key or collides at one. -/
def Unbroken (history : List Statement) : Prop :=
  NeverBreaks feed.passes feed.cleanKey feed.keyOf (feed.own history)

/-- The clean table holds the valid rows after each statement as soon as its job has caught up. -/
def AlwaysHolds (history : List Statement) : Prop :=
  ∀ count records, feed.arrived records = feed.changelog (history.take count) →
    feed.Holds (Database.empty.commitAll (history.take count)) (main.run records)

/-- The rows that a clean table stores for the valid rows of its source table. -/
def stored {Stored : Type} (ofData : Data → Option Stored) (database : Database) : List Stored :=
  (((feed.source database).rows.filter feed.passes).map feed.cleanData).filterMap ofData

end Feed

section Feeds

def ordersFeed : Feed OrdersRow (Varchar 50) OrdersSource OrdersData OrdersColumns (Option String)
    (Option String × Timestamp) where
  processor := OrderProcessor.processOrdersWithSQL
  toSource := OrdersRow.toSource
  keyOf := OrdersRow.orderId
  cleanSelect := OrderProcessor.cleanSelect
  dataKey data := data.orderId
  keeps := ⟨fun _ => rfl, fun _ _ => rfl⟩
  source := Database.orders
  startsEmpty := rfl
  statement
    | .orders own => some own
    | _ => none
  reached := by rintro database next own found; cases next <;> cases found; rfl
  passed := by rintro database next other; cases next <;> first | rfl | cases other
  clean jobs := jobs.orders.clean
  mainEmpty := rfl
  tag := .orders
  record
    | (now, .orders change) => some (now, change)
    | _ => none
  record_tag _ _ := rfl
  processed := by rintro jobs ⟨now, next⟩ change found; cases next <;> cases found; rfl
  skipped := by rintro jobs ⟨now, next⟩ other; cases next <;> first | rfl | cases other

def orderItemsFeed : Feed OrderItemsRow Nat OrderItemsSource OrderItemsData OrderItemsColumns
    (Option String × Option String) ((Option String × Option String) × Timestamp) where
  processor := OrderItemProcessor.processOrderItemsWithSQL
  toSource := OrderItemsRow.toSource
  keyOf := OrderItemsRow.id
  cleanSelect := OrderItemProcessor.cleanSelect
  dataKey data := (data.orderId, data.productId)
  keeps := ⟨fun _ => rfl, fun _ _ => rfl⟩
  source := Database.orderItems
  startsEmpty := rfl
  statement
    | .orderItems own => some own
    | _ => none
  reached := by rintro database next own found; cases next <;> cases found; rfl
  passed := by rintro database next other; cases next <;> first | rfl | cases other
  clean jobs := jobs.orderItems.clean
  mainEmpty := rfl
  tag := .orderItems
  record
    | (now, .orderItems change) => some (now, change)
    | _ => none
  record_tag _ _ := rfl
  processed := by rintro jobs ⟨now, next⟩ change found; cases next <;> cases found; rfl
  skipped := by rintro jobs ⟨now, next⟩ other; cases next <;> first | rfl | cases other

def productsFeed : Feed ProductsRow (Varchar 50) ProductsSource ProductsData ProductsColumns
    (Option String) (Option String × Timestamp) where
  processor := ProductProcessor.processProductsWithSQL
  toSource := ProductsRow.toSource
  keyOf := ProductsRow.productId
  cleanSelect := ProductProcessor.cleanSelect
  dataKey data := data.productId
  keeps := ⟨fun _ => rfl, fun _ _ => rfl⟩
  source := Database.products
  startsEmpty := rfl
  statement
    | .products own => some own
    | _ => none
  reached := by rintro database next own found; cases next <;> cases found; rfl
  passed := by rintro database next other; cases next <;> first | rfl | cases other
  clean jobs := jobs.products.clean
  mainEmpty := rfl
  tag := .products
  record
    | (now, .products change) => some (now, change)
    | _ => none
  record_tag _ _ := rfl
  processed := by rintro jobs ⟨now, next⟩ change found; cases next <;> cases found; rfl
  skipped := by rintro jobs ⟨now, next⟩ other; cases next <;> first | rfl | cases other

def reviewsFeed : Feed ReviewsRow (Varchar 50) ReviewsSource ReviewsData ReviewsColumns
    (Option String) (Option String × Timestamp) where
  processor := ReviewProcessor.processReviewsWithSQL
  toSource := ReviewsRow.toSource
  keyOf := ReviewsRow.reviewId
  cleanSelect := ReviewProcessor.cleanSelect
  dataKey data := data.orderId
  keeps := ⟨fun _ => rfl, fun _ _ => rfl⟩
  source := Database.reviews
  startsEmpty := rfl
  statement
    | .reviews own => some own
    | _ => none
  reached := by rintro database next own found; cases next <;> cases found; rfl
  passed := by rintro database next other; cases next <;> first | rfl | cases other
  clean jobs := jobs.reviews.clean
  mainEmpty := rfl
  tag := .reviews
  record
    | (now, .reviews change) => some (now, change)
    | _ => none
  record_tag _ _ := rfl
  processed := by rintro jobs ⟨now, next⟩ change found; cases next <;> cases found; rfl
  skipped := by rintro jobs ⟨now, next⟩ other; cases next <;> first | rfl | cases other

def paymentsFeed : Feed PaymentsRow Nat PaymentsSource PaymentsData PaymentsColumns
    (Option String × Option String) ((Option String × Option String) × Timestamp) where
  processor := PaymentProcessor.processPaymentsWithSQL
  toSource := PaymentsRow.toSource
  keyOf := PaymentsRow.id
  cleanSelect := PaymentProcessor.cleanSelect
  dataKey data := (data.orderId, data.paymentType)
  keeps := ⟨fun _ => rfl, fun _ _ => rfl⟩
  source := Database.payments
  startsEmpty := rfl
  statement
    | .payments own => some own
    | _ => none
  reached := by rintro database next own found; cases next <;> cases found; rfl
  passed := by rintro database next other; cases next <;> first | rfl | cases other
  clean jobs := jobs.payments.clean
  mainEmpty := rfl
  tag := .payments
  record
    | (now, .payments change) => some (now, change)
    | _ => none
  record_tag _ _ := rfl
  processed := by rintro jobs ⟨now, next⟩ change found; cases next <;> cases found; rfl
  skipped := by rintro jobs ⟨now, next⟩ other; cases next <;> first | rfl | cases other

def customersFeed : Feed CustomersRow (Varchar 50) CustomersSource CustomersData CustomersColumns
    (Option String) (Option String × Timestamp) where
  processor := CustomerProcessor.processCustomersWithSQL
  toSource := CustomersRow.toSource
  keyOf := CustomersRow.customerId
  cleanSelect := CustomerProcessor.cleanSelect
  dataKey data := data.customerId
  keeps := ⟨fun _ => rfl, fun _ _ => rfl⟩
  source := Database.customers
  startsEmpty := rfl
  statement
    | .customers own => some own
    | _ => none
  reached := by rintro database next own found; cases next <;> cases found; rfl
  passed := by rintro database next other; cases next <;> first | rfl | cases other
  clean jobs := jobs.customers.clean
  mainEmpty := rfl
  tag := .customers
  record
    | (now, .customers change) => some (now, change)
    | _ => none
  record_tag _ _ := rfl
  processed := by rintro jobs ⟨now, next⟩ change found; cases next <;> cases found; rfl
  skipped := by rintro jobs ⟨now, next⟩ other; cases next <;> first | rfl | cases other

end Feeds

/-- A run of statements that break no clean table. -/
structure UnbrokenRun where
  history : List Statement
  orders : ordersFeed.Unbroken history
  orderItems : orderItemsFeed.Unbroken history
  products : productsFeed.Unbroken history
  reviews : reviewsFeed.Unbroken history
  payments : paymentsFeed.Unbroken history
  customers : customersFeed.Unbroken history

/-- Each job has read a part of the changelog of its table, and the parts arrive interleaved. -/
structure Delivery (history : List Statement) where
  records : List (Timestamp × OdsETLJob.Record)
  orders : ordersFeed.arrived records <+: ordersFeed.changelog history
  orderItems : orderItemsFeed.arrived records <+: orderItemsFeed.changelog history
  products : productsFeed.arrived records <+: productsFeed.changelog history
  reviews : reviewsFeed.arrived records <+: reviewsFeed.changelog history
  payments : paymentsFeed.arrived records <+: paymentsFeed.changelog history
  customers : customersFeed.arrived records <+: customersFeed.changelog history

/-- The four jobs behind the views have read their whole changelogs. -/
structure Delivery.Complete {history : List Statement} (delivery : Delivery history) : Prop where
  orders : ordersFeed.arrived delivery.records = ordersFeed.changelog history
  orderItems : orderItemsFeed.arrived delivery.records = orderItemsFeed.changelog history
  products : productsFeed.arrived delivery.records = productsFeed.changelog history
  payments : paymentsFeed.arrived delivery.records = paymentsFeed.changelog history

end OdsPipeline
