import OdsPipeline.Construction.OdsETLJob
import OdsPipeline.Proof.TargetSchema

namespace OdsPipeline
open Library SqlQueries

/-- The target tables of a processor and the records that its two sinks send them. -/
structure Targets (Data Columns : Type) where
  clean : TableDef
  cleanRecord : CleanSink Data → Library.Record
  error : TableDef
  errorSinkKey : List String
  errorRecord : ErrorSink Columns → Library.Record

/-- The targets store all that both statements of a processor write for a row. A text has to fit its
column in the error table too. -/
def Targets.Store {Source Data Columns CleanKey ErrorKey : Type} (targets : Targets Data Columns)
    (processor : Processor Source Data Columns CleanKey ErrorKey) (now : Timestamp)
    (row : Source) : Prop :=
  (processor.clean.Selects row →
      targets.clean.Admits (targets.cleanRecord (processor.clean.select now row))) ∧
    (processor.error.Selects row →
      Storable targets.error targets.errorSinkKey
          (targets.errorRecord (processor.error.select now row)) ∧
        targets.error.Fits (targets.errorRecord (processor.error.select now row)))

instance {Source Data Columns CleanKey ErrorKey : Type} (targets : Targets Data Columns)
    (processor : Processor Source Data Columns CleanKey ErrorKey) (now : Timestamp)
    (row : Source) : Decidable (targets.Store processor now row) :=
  inferInstanceAs (Decidable (_ ∧ _))

/-- Both tables of a job hold only rows that the targets store. -/
structure Targets.Hold {Source Data Columns CleanKey ErrorKey : Type}
    {processor : Processor Source Data Columns CleanKey ErrorKey} (targets : Targets Data Columns)
    (tables : JobTables processor) : Prop where
  clean : ∀ row ∈ tables.clean.rows, targets.clean.Admits (targets.cleanRecord row)
  error : ∀ row ∈ tables.error.rows,
    Storable targets.error targets.errorSinkKey (targets.errorRecord row) ∧
      targets.error.Fits (targets.errorRecord row)

section Tables
open CleanSchema ErrorSchema

def ordersTargets : Targets OrdersData OrdersColumns :=
  ⟨odsOrders, CleanSchema.ordersRecord, odsOrdersError, ordersErrorSink, ErrorSchema.ordersRecord⟩

def orderItemsTargets : Targets OrderItemsData OrderItemsColumns :=
  ⟨odsOrderItems, CleanSchema.orderItemsRecord, odsOrderItemsError, orderItemsErrorSink,
    ErrorSchema.orderItemsRecord⟩

def productsTargets : Targets ProductsData ProductsColumns :=
  ⟨odsProducts, CleanSchema.productsRecord, odsProductsError, productsErrorSink,
    ErrorSchema.productsRecord⟩

def reviewsTargets : Targets ReviewsData ReviewsColumns :=
  ⟨odsReviews, CleanSchema.reviewsRecord, odsReviewsError, reviewsErrorSink,
    ErrorSchema.reviewsRecord⟩

def paymentsTargets : Targets PaymentsData PaymentsColumns :=
  ⟨odsPayments, CleanSchema.paymentsRecord, odsPaymentsError, paymentsErrorSink,
    ErrorSchema.paymentsRecord⟩

def customersTargets : Targets CustomersData CustomersColumns :=
  ⟨odsCustomers, CleanSchema.customersRecord, odsCustomersError, customersErrorSink,
    ErrorSchema.customersRecord⟩

end Tables

/-- The targets of a job store all that it writes for a record at this time. -/
def OdsETLJob.Record.Stored (now : Timestamp) : OdsETLJob.Record → Prop
  | .orders change => ordersTargets.Store OrderProcessor.processOrdersWithSQL now change.row
  | .orderItems change =>
      orderItemsTargets.Store OrderItemProcessor.processOrderItemsWithSQL now change.row
  | .products change => productsTargets.Store ProductProcessor.processProductsWithSQL now change.row
  | .reviews change => reviewsTargets.Store ReviewProcessor.processReviewsWithSQL now change.row
  | .payments change => paymentsTargets.Store PaymentProcessor.processPaymentsWithSQL now change.row
  | .customers change =>
      customersTargets.Store CustomerProcessor.processCustomersWithSQL now change.row

instance (now : Timestamp) : (record : OdsETLJob.Record) → Decidable (record.Stored now)
  | .orders change => inferInstanceAs (Decidable (ordersTargets.Store _ now change.row))
  | .orderItems change => inferInstanceAs (Decidable (orderItemsTargets.Store _ now change.row))
  | .products change => inferInstanceAs (Decidable (productsTargets.Store _ now change.row))
  | .reviews change => inferInstanceAs (Decidable (reviewsTargets.Store _ now change.row))
  | .payments change => inferInstanceAs (Decidable (paymentsTargets.Store _ now change.row))
  | .customers change => inferInstanceAs (Decidable (customersTargets.Store _ now change.row))

/-- The tables of all six jobs hold only rows that the targets store. -/
structure OdsETLJob.Jobs.TargetsHold (jobs : OdsETLJob.Jobs) : Prop where
  orders : ordersTargets.Hold jobs.orders
  orderItems : orderItemsTargets.Hold jobs.orderItems
  products : productsTargets.Hold jobs.products
  reviews : reviewsTargets.Hold jobs.reviews
  payments : paymentsTargets.Hold jobs.payments
  customers : customersTargets.Hold jobs.customers

end OdsPipeline
