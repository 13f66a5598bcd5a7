import OdsPipeline.Construction.CustomerProcessor
import OdsPipeline.Construction.OrderItemProcessor
import OdsPipeline.Construction.OrderProcessor
import OdsPipeline.Construction.PaymentProcessor
import OdsPipeline.Construction.ProductProcessor
import OdsPipeline.Construction.ReviewProcessor

namespace OdsPipeline
open Library SqlQueries Postgres

section Routing
variable {Source Data Columns CleanKey ErrorKey : Type}

/-- Exactly one of the two statements selects the row. -/
def Processor.RoutesOnce (processor : Processor Source Data Columns CleanKey ErrorKey)
    (row : Source) : Prop :=
  Xor (processor.clean.Selects row) (processor.error.Selects row)

/-- The error filter is the negation of the clean filter. -/
def Processor.Complementary (processor : Processor Source Data Columns CleanKey ErrorKey) : Prop :=
  ∀ row, processor.error.condition row = (processor.clean.condition row).not

/-- Two complementary filters lose exactly the rows with an unknown condition. -/
theorem Processor.routesOnce_iff (processor : Processor Source Data Columns CleanKey ErrorKey)
    (complementary : processor.Complementary) (row : Source) :
    processor.RoutesOnce row ↔ processor.clean.condition row ≠ .unknown := by
  rw [RoutesOnce, InsertSelect.Selects, InsertSelect.Selects, complementary row]
  exact Truth.xor_not_iff _

theorem whereAll_eq_unknown_iff (conjuncts : List (Column × Truth)) :
    whereAll conjuncts = .unknown ↔
      (∀ conjunct ∈ conjuncts, conjunct.2 ≠ .false) ∧
        ∃ conjunct ∈ conjuncts, conjunct.2 = .unknown := by
  rw [whereAll, Truth.all_eq_unknown_iff, List.forall_mem_map]
  refine and_congr_right fun _ => ?_
  simp

/-- A chain of AND is known when each unknown test stands beside a failing test. -/
theorem whereAll_known (conjuncts : List (Column × Truth))
    (guarded : ∀ conjunct ∈ conjuncts, conjunct.2 = .unknown →
      ∃ guard ∈ conjuncts, guard.2 = .false) : whereAll conjuncts ≠ .unknown := by
  rw [Ne, whereAll_eq_unknown_iff]
  rintro ⟨noneFails, conjunct, member, unknown⟩
  obtain ⟨guard, present, fails⟩ := guarded conjunct member unknown
  exact noneFails guard present fails

end Routing

theorem orders_complementary : OrderProcessor.processOrdersWithSQL.Complementary := fun _ => rfl

theorem orderItems_complementary :
    OrderItemProcessor.processOrderItemsWithSQL.Complementary := fun _ => rfl

theorem products_complementary :
    ProductProcessor.processProductsWithSQL.Complementary := fun _ => rfl

theorem reviews_complementary : ReviewProcessor.processReviewsWithSQL.Complementary := fun _ => rfl

theorem payments_complementary :
    PaymentProcessor.processPaymentsWithSQL.Complementary := fun _ => rfl

theorem customers_complementary :
    CustomerProcessor.processCustomersWithSQL.Complementary := fun _ => rfl

section Known

/-- Each test in this filter stands beside an IS NOT NULL of the same column. -/
theorem orderItems_condition_known (row : OrderItemsSource) :
    OrderItemProcessor.processOrderItemsWithSQL.clean.condition row ≠ .unknown := by
  apply whereAll_known
  simp +contextual [OrderItemProcessor.cleanConjuncts, charLength]

theorem products_condition_known (row : ProductsSource) :
    ProductProcessor.processProductsWithSQL.clean.condition row ≠ .unknown := by
  apply whereAll_known
  simp +contextual [ProductProcessor.cleanConjuncts, charLength]

theorem reviews_condition_known (row : ReviewsSource) :
    ReviewProcessor.processReviewsWithSQL.clean.condition row ≠ .unknown := by
  apply whereAll_known
  simp +contextual [ReviewProcessor.cleanConjuncts, charLength]

theorem customers_condition_known (row : CustomersSource) :
    CustomerProcessor.processCustomersWithSQL.clean.condition row ≠ .unknown := by
  apply whereAll_known
  simp +contextual [CustomerProcessor.cleanConjuncts, charLength]

/-- The order status has no guard, so a NULL status passes unseen beside valid columns. -/
theorem orders_condition_unknown_iff (row : OrdersSource) :
    OrderProcessor.processOrdersWithSQL.clean.condition row = .unknown ↔
      row.orderStatus = none ∧ (∃ id ∈ row.orderId, id.length ≤ 50) ∧
        (∃ id ∈ row.customerId, id.length ≤ 50) ∧ row.orderPurchaseTimestamp ≠ none := by
  change whereAll (OrderProcessor.cleanConjuncts row) = .unknown ↔ _
  rw [whereAll_eq_unknown_iff]
  rcases row with ⟨⟨orderId, customerId, status, purchase, delivered, estimated⟩, deleted⟩
  cases orderId <;> cases customerId <;> cases status <;>
    simp [OrderProcessor.cleanConjuncts, charLength]

/-- The payment type has no guard, so a NULL type passes unseen beside valid columns. -/
theorem payments_condition_unknown_iff (row : PaymentsSource) :
    PaymentProcessor.processPaymentsWithSQL.clean.condition row = .unknown ↔
      row.paymentType = none ∧ (∃ id ∈ row.orderId, id.length ≤ 50) ∧
        ∃ value ∈ row.paymentValue, 0 < value ∧ value ≤ 50000 := by
  change whereAll (PaymentProcessor.cleanConjuncts row) = .unknown ↔ _
  rw [whereAll_eq_unknown_iff]
  rcases row with ⟨⟨orderId, paymentType, value⟩, deleted⟩
  cases orderId <;> cases paymentType <;> cases value <;>
    simp [PaymentProcessor.cleanConjuncts, charLength]

theorem orders_routesOnce_iff (row : OrdersRow) :
    OrderProcessor.processOrdersWithSQL.RoutesOnce row.toSource ↔
      row.orderStatus ≠ none ∨ row.customerId = none ∨ row.orderPurchaseTimestamp = none := by
  rw [Processor.routesOnce_iff _ orders_complementary, Ne, orders_condition_unknown_iff]
  have idLength := row.orderId.property
  cases customer : row.customerId with
  | none => simp [OrdersRow.toSource, customer]
  | some id =>
      have customerLength := id.property
      simp [OrdersRow.toSource, customer, idLength, customerLength, or_iff_not_imp_left]

theorem payments_routesOnce_iff (row : PaymentsRow) :
    PaymentProcessor.processPaymentsWithSQL.RoutesOnce row.toSource ↔
      row.paymentType ≠ none ∨ row.orderId = none ∨
        ∀ value ∈ row.paymentValue, value ≤ 0 ∨ 50000 < value := by
  rw [Processor.routesOnce_iff _ payments_complementary, Ne, payments_condition_unknown_iff]
  cases order : row.orderId with
  | none => simp [PaymentsRow.toSource, order]
  | some id =>
      have orderLength := id.property
      cases value : row.paymentValue with
      | none => simp [PaymentsRow.toSource, value]
      | some amount =>
          simp [PaymentsRow.toSource, order, value, orderLength, or_iff_not_imp_left, not_le]

end Known

/-- A row leaves the pipeline in silence exactly when its order status or payment type is NULL
and every other validated column is valid. -/
theorem rows_routed_once_iff (order : OrdersRow) (payment : PaymentsRow) (item : OrderItemsRow)
    (product : ProductsRow) (review : ReviewsRow) (customer : CustomersRow) :
    (OrderProcessor.processOrdersWithSQL.RoutesOnce order.toSource ↔
      order.orderStatus ≠ none ∨ order.customerId = none ∨ order.orderPurchaseTimestamp = none) ∧
    (PaymentProcessor.processPaymentsWithSQL.RoutesOnce payment.toSource ↔
      payment.paymentType ≠ none ∨ payment.orderId = none ∨
        ∀ value ∈ payment.paymentValue, value ≤ 0 ∨ 50000 < value) ∧
    OrderItemProcessor.processOrderItemsWithSQL.RoutesOnce item.toSource ∧
    ProductProcessor.processProductsWithSQL.RoutesOnce product.toSource ∧
    ReviewProcessor.processReviewsWithSQL.RoutesOnce review.toSource ∧
    CustomerProcessor.processCustomersWithSQL.RoutesOnce customer.toSource := by
  refine ⟨orders_routesOnce_iff order, payments_routesOnce_iff payment, ?_, ?_, ?_, ?_⟩
  · exact (Processor.routesOnce_iff _ orderItems_complementary _).mpr (orderItems_condition_known _)
  · exact (Processor.routesOnce_iff _ products_complementary _).mpr (products_condition_known _)
  · exact (Processor.routesOnce_iff _ reviews_complementary _).mpr (reviews_condition_known _)
  · exact (Processor.routesOnce_iff _ customers_complementary _).mpr (customers_condition_known _)

/-- Neither statement selects this order or this payment. -/
theorem null_status_and_type_lost :
    ¬ OrderProcessor.processOrdersWithSQL.RoutesOnce
      (OrdersRow.toSource ⟨⟨"o1", by decide⟩, some ⟨"c1", by decide⟩, none, some 0, none, none,
        some false⟩) ∧
    ¬ PaymentProcessor.processPaymentsWithSQL.RoutesOnce
      (PaymentsRow.toSource ⟨1, some ⟨"o1", by decide⟩, none, some 10, some false⟩) := by
  rw [Processor.routesOnce_iff _ orders_complementary,
    Processor.routesOnce_iff _ payments_complementary]
  decide

end OdsPipeline
