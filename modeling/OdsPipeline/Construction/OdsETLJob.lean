import OdsPipeline.Construction.CleanTables
import OdsPipeline.Construction.CustomerProcessor
import OdsPipeline.Construction.OrderItemProcessor
import OdsPipeline.Construction.OrderProcessor
import OdsPipeline.Construction.PaymentProcessor
import OdsPipeline.Construction.ProductProcessor
import OdsPipeline.Construction.ReviewProcessor

/-
This file contains the six jobs that `OdsETLJob.main` submits.
Each job has its own replication slot, so their records arrive in any order.
-/

namespace OdsPipeline
open Library SqlQueries StarRocks

/-- A job writes the clean table and the error table of its processor. -/
structure JobTables {Source Data Columns CleanKey ErrorKey : Type}
    (processor : Processor Source Data Columns CleanKey ErrorKey) where
  clean : KeyedTable processor.clean.primaryKey
  error : KeyedTable processor.error.primaryKey

namespace JobTables
variable {Source Data Columns CleanKey ErrorKey : Type}
  {processor : Processor Source Data Columns CleanKey ErrorKey}

def empty : JobTables processor := ⟨KeyedTable.empty _, KeyedTable.empty _⟩

/-- Both statements of a job read each record. -/
def process [DecidableEq CleanKey] [DecidableEq ErrorKey] (tables : JobTables processor)
    (now : Timestamp) (change : Change Source) : JobTables processor where
  clean := processor.clean.deliver true tables.clean [(now, change)]
  error := processor.error.deliver true tables.error [(now, change)]

end JobTables

namespace OdsETLJob

structure Jobs where
  orders : JobTables OrderProcessor.processOrdersWithSQL
  orderItems : JobTables OrderItemProcessor.processOrderItemsWithSQL
  products : JobTables ProductProcessor.processProductsWithSQL
  reviews : JobTables ReviewProcessor.processReviewsWithSQL
  payments : JobTables PaymentProcessor.processPaymentsWithSQL
  customers : JobTables CustomerProcessor.processCustomersWithSQL

/-- A record belongs to the source table of one job. -/
inductive Record where
  | orders (change : Change OrdersSource)
  | orderItems (change : Change OrderItemsSource)
  | products (change : Change ProductsSource)
  | reviews (change : Change ReviewsSource)
  | payments (change : Change PaymentsSource)
  | customers (change : Change CustomersSource)

/-- The jobs start on empty sinks. -/
def main : Jobs := ⟨.empty, .empty, .empty, .empty, .empty, .empty⟩

def Jobs.process (jobs : Jobs) (now : Timestamp) : Record → Jobs
  | .orders change => { jobs with orders := jobs.orders.process now change }
  | .orderItems change => { jobs with orderItems := jobs.orderItems.process now change }
  | .products change => { jobs with products := jobs.products.process now change }
  | .reviews change => { jobs with reviews := jobs.reviews.process now change }
  | .payments change => { jobs with payments := jobs.payments.process now change }
  | .customers change => { jobs with customers := jobs.customers.process now change }

def Jobs.run (jobs : Jobs) (records : List (Timestamp × Record)) : Jobs :=
  records.foldl (fun jobs record => jobs.process record.1 record.2) jobs

/-- The clean tables that the views read. -/
def Jobs.cleanTables (jobs : Jobs) : CleanTables :=
  CleanTables.ofSinks jobs.orders.clean jobs.orderItems.clean jobs.products.clean
    jobs.payments.clean

section Split

def ordersRecord : Timestamp × Record → Option (Timestamp × Change OrdersSource)
  | (now, .orders change) => some (now, change)
  | _ => none

def paymentsRecord : Timestamp × Record → Option (Timestamp × Change PaymentsSource)
  | (now, .payments change) => some (now, change)
  | _ => none

/-- A job sees only its own records, in their order of arrival. -/
theorem Jobs.run_orders (jobs : Jobs) (records : List (Timestamp × Record)) :
    (jobs.run records).orders.clean =
      OrderProcessor.processOrdersWithSQL.clean.deliver true jobs.orders.clean
        (records.filterMap ordersRecord) := by
  apply OrderProcessor.processOrdersWithSQL.clean.foldl_own true
    fun jobs : Jobs => jobs.orders.clean
  case reached =>
    rintro jobs ⟨now, record⟩ change arrived
    cases record <;> cases arrived
    rfl
  case passed =>
    rintro jobs ⟨now, record⟩ skipped
    cases record with
    | orders change => cases skipped
    | _ => rfl

theorem Jobs.run_payments (jobs : Jobs) (records : List (Timestamp × Record)) :
    (jobs.run records).payments.clean =
      PaymentProcessor.processPaymentsWithSQL.clean.deliver true jobs.payments.clean
        (records.filterMap paymentsRecord) := by
  apply PaymentProcessor.processPaymentsWithSQL.clean.foldl_own true
    fun jobs : Jobs => jobs.payments.clean
  case reached =>
    rintro jobs ⟨now, record⟩ change arrived
    cases record <;> cases arrived
    rfl
  case passed =>
    rintro jobs ⟨now, record⟩ skipped
    cases record with
    | payments change => cases skipped
    | _ => rfl

end Split

end OdsETLJob

end OdsPipeline
