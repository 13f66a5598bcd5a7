import OdsPipeline.Proof.Accounts
import OdsPipeline.Proof.GeneratedRows
import OdsPipeline.Proof.GeneratedRuns

namespace OdsPipeline
open Library SqlQueries Postgres OdsETLJob DataGenerator

section Rejections
variable {Row Source Data Columns CleanKey ErrorKey : Type}
  (processor : Processor Source Data Columns CleanKey ErrorKey) (toSource : Row → Source)

/-- The report of a row that the error statement selects. -/
def Processor.reportOf (row : Row) : ErrorReport Columns :=
  (processor.error.select 0 (toSource row)).toErrorReport

theorem Processor.rejections_append (first second : List Row) :
    processor.rejections toSource (first ++ second) =
      processor.rejections toSource first ++ processor.rejections toSource second := by
  rw [rejections, List.filter_append, List.map_append]
  rfl

/-- The rejections of rows that a test divides into rejected and clean rows. -/
theorem Processor.rejections_eq (rows : List Row) (lacks : Row → Bool)
    (rejected : ∀ row ∈ rows, lacks row = true → processor.error.Selects (toSource row))
    (kept : ∀ row ∈ rows, lacks row = false → ¬ processor.error.Selects (toSource row)) :
    processor.rejections toSource rows = (rows.filter lacks).map (processor.reportOf toSource) := by
  have same : rows.filter (processor.error.comap toSource).passes = rows.filter lacks := by
    apply List.filter_congr
    intro row member
    cases missing : lacks row with
    | true => exact decide_eq_true (rejected row member missing)
    | false => exact decide_eq_false (kept row member missing)
  rw [rejections, same]
  rfl

/-- Clean rows add no rejections. -/
theorem Processor.rejections_append_clean (first second : List Row)
    (clean : ∀ row ∈ second, processor.RoutesClean (toSource row)) :
    processor.rejections toSource (first ++ second) = processor.rejections toSource first := by
  have none : processor.rejections toSource second = [] := by
    rw [rejections, List.map_eq_nil_iff, List.filter_eq_nil_iff]
    intro row member selected
    exact (clean row member).2 (of_decide_eq_true selected)
  rw [rejections_append, none, List.append_nil]

end Rejections

section Growth

def Postgres.OrdersRow.lacksCustomer (row : OrdersRow) : Bool := row.customerId.isNone

def Postgres.OrderItemsRow.lacksProduct (row : OrderItemsRow) : Bool := row.productId.isNone

/-- A new customer or product is valid. -/
def Postgres.NewRow.Valid : NewRow → Prop
  | .customers row => CustomerProcessor.processCustomersWithSQL.RoutesClean row.toSource
  | .products row => ProductProcessor.processProductsWithSQL.RoutesClean row.toSource
  | _ => True

/-- The columns of the source tables are as short as the validation requires. -/
theorem Postgres.Insert.row_valid {insert : Insert} {row : NewRow}
    (known : insert.row = .ok row) : row.Valid := by
  cases insert with
  | orders orderId customerId orderStatus purchase estimated =>
      obtain ⟨order, rfl, -⟩ := row_orders known
      trivial
  | orderItems id orderId productId price freightValue =>
      obtain ⟨item, rfl, -⟩ := row_orderItems known
      trivial
  | payments id orderId paymentType paymentValue =>
      obtain ⟨payment, rfl, -⟩ := row_payments known
      trivial
  | customers customerId uniqueId city state =>
      simp only [Insert.row, bind_eq_ok_iff] at known
      obtain ⟨id, -, unique, -, city, -, state, -, same⟩ := known
      cases same
      apply Processor.routesClean_of_selects _ customers_complementary
      apply (whereAll_eq_true_iff _).mpr
      simp [CustomerProcessor.cleanConjuncts, charLength, CustomersRow.toSource, id.property,
        unique.property, city.property, state.property]
  | products productId categoryName =>
      simp only [Insert.row, bind_eq_ok_iff] at known
      obtain ⟨id, -, name, -, same⟩ := known
      cases same
      apply Processor.routesClean_of_selects _ products_complementary
      apply (whereAll_eq_true_iff _).mpr
      simp [ProductProcessor.cleanConjuncts, charLength, ProductsRow.toSource, id.property,
        name.property]

/-- The generator adds rejected orders without a customer, rejected items without a product, and no
other rejected row. -/
structure RejectionsGrow (before after : Database) (sales : List Sale) : Prop where
  orders : OrderProcessor.processOrdersWithSQL.rejections OrdersRow.toSource after.orders.rows =
    OrderProcessor.processOrdersWithSQL.rejections OrdersRow.toSource before.orders.rows ++
      ((sales.map fun sale => sale.purchase.order).filter OrdersRow.lacksCustomer).map
        (OrderProcessor.processOrdersWithSQL.reportOf OrdersRow.toSource)
  orderItems : OrderItemProcessor.processOrderItemsWithSQL.rejections OrderItemsRow.toSource
      after.orderItems.rows =
    OrderItemProcessor.processOrderItemsWithSQL.rejections OrderItemsRow.toSource
        before.orderItems.rows ++
      ((sales.flatMap fun sale => sale.purchase.items).filter OrderItemsRow.lacksProduct).map
        (OrderItemProcessor.processOrderItemsWithSQL.reportOf OrderItemsRow.toSource)
  payments : PaymentProcessor.processPaymentsWithSQL.rejections PaymentsRow.toSource
      after.payments.rows =
    PaymentProcessor.processPaymentsWithSQL.rejections PaymentsRow.toSource before.payments.rows
  products : ProductProcessor.processProductsWithSQL.rejections ProductsRow.toSource
      after.products.rows =
    ProductProcessor.processProductsWithSQL.rejections ProductsRow.toSource before.products.rows
  customers : CustomerProcessor.processCustomersWithSQL.rejections CustomersRow.toSource
      after.customers.rows =
    CustomerProcessor.processCustomersWithSQL.rejections CustomersRow.toSource
      before.customers.rows
  reviews : ReviewProcessor.processReviewsWithSQL.rejections ReviewsRow.toSource
      after.reviews.rows =
    ReviewProcessor.processReviewsWithSQL.rejections ReviewsRow.toSource before.reviews.rows

/-- Valid rows with fitting keys add no rejections but those of their sales. -/
theorem rejectionsGrow_of_sold {sales : List Sale} {before : Database} {rows : List NewRow}
    (fits : FitsAll before rows) (valid : ∀ row ∈ rows, row.Valid)
    (sold : Sold sales before (before.addAll rows)) :
    RejectionsGrow before (before.addAll rows) sales := by
  constructor
  case orders =>
    rw [sold.orders, Processor.rejections_append]
    congr 1
    apply Processor.rejections_eq
    · intro row member missing
      obtain ⟨sale, -, rfl⟩ := List.mem_map.mp member
      exact (order_routesError sale.purchase (Option.isNone_iff_eq_none.mp missing)).1
    · intro row member known
      obtain ⟨sale, -, rfl⟩ := List.mem_map.mp member
      apply (order_routesClean sale.purchase _).2
      intro missing
      rw [OrdersRow.lacksCustomer, missing] at known
      cases known
  case orderItems =>
    rw [sold.orderItems, Processor.rejections_append]
    congr 1
    apply Processor.rejections_eq
    · intro item member missing
      obtain ⟨sale, -, inside⟩ := List.mem_flatMap.mp member
      exact (item_routesError sale.purchase item inside (Option.isNone_iff_eq_none.mp missing)).1
    · intro item member known
      obtain ⟨sale, -, inside⟩ := List.mem_flatMap.mp member
      apply (item_routesClean sale.purchase item inside _).2
      intro missing
      rw [OrderItemsRow.lacksProduct, missing] at known
      cases known
  case payments =>
    rw [sold.payments]
    apply Processor.rejections_append_clean
    intro payment member
    obtain ⟨sale, -, rfl⟩ := List.mem_map.mp member
    exact payment_routesClean sale.purchase
  case products =>
    have grown : (before.addAll rows).products.rows = _ := productsFeed_reads.rows_addAll fits
    rw [grown]
    apply Processor.rejections_append_clean
    intro product member
    obtain ⟨row, inside, picked⟩ := List.mem_filterMap.mp member
    have own := valid row inside
    cases row <;> cases picked
    exact own
  case customers =>
    have grown : (before.addAll rows).customers.rows = _ := customersFeed_reads.rows_addAll fits
    rw [grown]
    apply Processor.rejections_append_clean
    intro customer member
    obtain ⟨row, inside, picked⟩ := List.mem_filterMap.mp member
    have own := valid row inside
    cases row <;> cases picked
    exact own
  case reviews =>
    have grown : (before.addAll rows).reviews.rows = _ := reviewsFeed_reads.rows_addAll fits
    rw [grown, List.filterMap_none, List.append_nil]
    rfl

/-- The reports about a sale name the missing id. -/
structure MissingIdsNamed (sale : Sale) : Prop where
  order : sale.purchase.order.lacksCustomer = true →
    (OrderProcessor.processOrdersWithSQL.reportOf OrdersRow.toSource
      sale.purchase.order).errorMessage = "Invalid customer ID"
  items : ∀ item ∈ sale.purchase.items, item.lacksProduct = true →
    (OrderItemProcessor.processOrderItemsWithSQL.reportOf OrderItemsRow.toSource
      item).errorMessage = "Invalid product ID"

theorem missingIdsNamed (sale : Sale) : MissingIdsNamed sale where
  order missing :=
    (order_routesError sale.purchase (Option.isNone_iff_eq_none.mp missing)).2.2 0
  items item inside missing :=
    (item_routesError sale.purchase item inside (Option.isNone_iff_eq_none.mp missing)).2.2 0

end Growth

/-- A generator run on a database that only inserts have filled. The orders job has read each order
once, and its targets store what it writes. -/
structure AccountedRun (Thread : Type) [DecidableEq Thread] extends ContinuedRun Thread where
  inserts : ∀ next ∈ earlier, next.Inserts
  records : List (Timestamp × OdsETLJob.Record)
  read : ordersFeed.arrived records = ordersFeed.changelog toContinuedRun.history
  stored : ∀ arrived ∈ records, ordersFeed.record arrived ≠ none → arrived.2.Stored arrived.1

theorem Postgres.NewRow.statement_inserts (row : NewRow) : row.statement.Inserts := by
  cases row <;> exact ⟨_, rfl⟩

namespace AccountedRun
variable {Thread : Type} [DecidableEq Thread] (run : AccountedRun Thread)

theorem history_inserts : ∀ next ∈ run.history, next.Inserts := by
  intro next member
  rcases List.mem_append.mp member with early | added
  · exact run.inserts next early
  · obtain ⟨row, -, rfl⟩ := List.mem_map.mp added
    exact row.statement_inserts

/-- The error table of the orders reports each rejected order of the database once. -/
theorem orders_accounted : ordersErrors.Accounts run.pool.committed (main.run run.records) := by
  rw [← run.commitAll_history]
  apply (ordersErrors.accounts_iff run.history run.history_inserts run.records run.read).mpr
  exact ordersErrors.apart_of_key embedKey embedKey_injective (fun _ => rfl) run.history
    run.history_inserts run.records run.read

theorem orders_held : ordersTargets.Hold (main.run run.records).orders :=
  ordersErrors.hold_run ordersFeed_readsOwn (fun _ _ => id) run.records run.stored

theorem rows_valid : ∀ row ∈ run.rows, row.Valid := by
  intro row member
  obtain ⟨rows, listed, inside⟩ := List.mem_flatten.mp member
  obtain ⟨entry, logged, rfl⟩ := List.mem_map.mp listed
  obtain ⟨insert, known⟩ :=
    ((Pool.whole_of_reachable run.reached).log entry logged).exists_insert row inside
  exact Insert.row_valid known

/-- In every interleaving the generator adds exactly its orders without a customer to the error
table of the orders, and its other rejected rows are its items without a product. -/
theorem generated_errors_accounted :
    ∃ sales, Sold sales run.start run.pool.committed ∧
      RejectionsGrow run.start run.pool.committed sales ∧
      ordersTargets.Hold (main.run run.records).orders ∧
      ((main.run run.records).orders.error.rows.map ErrorSink.toErrorReport).Perm
        (OrderProcessor.processOrdersWithSQL.rejections OrdersRow.toSource run.start.orders.rows ++
          ((sales.map fun sale => sale.purchase.order).filter OrdersRow.lacksCustomer).map
            (OrderProcessor.processOrdersWithSQL.reportOf OrdersRow.toSource)) ∧
      ∀ sale ∈ sales, MissingIdsNamed sale := by
  obtain ⟨sales, sold⟩ := run.exists_sales
  have fits := run.fits
  have grown : RejectionsGrow run.start run.pool.committed sales := by
    rw [run.committed] at sold ⊢
    exact rejectionsGrow_of_sold fits run.rows_valid sold
  have reports := run.orders_accounted.reports
  refine ⟨sales, sold, grown, run.orders_held, ?_, fun sale _ => missingIdsNamed sale⟩
  rw [← grown.orders]
  exact reports

end AccountedRun

section Example

/-- The orders job has read the rejected order of the test and the valid one. -/
def shopAccounted : AccountedRun Bool where
  toContinuedRun := shopSells.continued
  inserts := by
    intro next member
    rcases List.mem_pair.mp member with rfl | rfl
    · exact ⟨_, rfl⟩
    · exact ⟨_, rfl⟩
  records := [
    (6, .orders ⟨.insert, nobodysOrder.toSource⟩),
    (6, .orders ⟨.insert, shopOrder.toSource⟩)]
  read := rfl
  stored arrived member _ := by
    rcases List.mem_pair.mp member with rfl | rfl
    · decide +kernel
    · decide +kernel

theorem shop_accounted : ∃ sales, Sold sales shopAccounted.start shopPool.committed ∧
    RejectionsGrow shopAccounted.start shopPool.committed sales := by
  obtain ⟨sales, sold, grown, -⟩ := shopAccounted.generated_errors_accounted
  exact ⟨sales, sold, grown⟩

end Example

end OdsPipeline
