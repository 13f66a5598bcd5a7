import OdsPipeline.Proof.GenerateOrder
import OdsPipeline.Proof.Routing

namespace OdsPipeline
open Library SqlQueries Postgres DataGenerator

section Sinks
variable {Source Data Columns CleanKey ErrorKey : Type}

/-- The row reaches the clean sink only. -/
def Processor.RoutesClean (processor : Processor Source Data Columns CleanKey ErrorKey)
    (row : Source) : Prop :=
  processor.clean.Selects row ∧ ¬ processor.error.Selects row

/-- The row reaches the error sink only, at any time with the same message. -/
def Processor.RoutesError (processor : Processor Source Data Columns CleanKey ErrorKey)
    (row : Source) (message : String) : Prop :=
  processor.error.Selects row ∧ ¬ processor.clean.Selects row ∧
    ∀ now, (processor.error.select now row).errorMessage = message

theorem Processor.routesClean_of_selects
    (processor : Processor Source Data Columns CleanKey ErrorKey)
    (complementary : processor.Complementary) (row : Source)
    (selected : processor.clean.Selects row) : processor.RoutesClean row := by
  refine ⟨selected, ?_⟩
  rw [InsertSelect.Selects, complementary row, selected]
  decide

theorem Processor.routesError_of_false
    (processor : Processor Source Data Columns CleanKey ErrorKey)
    (complementary : processor.Complementary) (row : Source) (message : String)
    (rejected : processor.clean.condition row = .false)
    (reported : ∀ now, (processor.error.select now row).errorMessage = message) :
    processor.RoutesError row message := by
  refine ⟨?_, ?_, reported⟩
  · rw [InsertSelect.Selects, complementary row, rejected]
    rfl
  · rw [InsertSelect.Selects, rejected]
    decide

end Sinks

section Routes

/-- The generator writes only statuses that the validation accepts. -/
theorem statuses_valid : ∀ status ∈ statuses, status ∈ OrderProcessor.validStatuses := by decide

theorem paymentTypes_valid : ∀ type ∈ paymentTypes, type ∈ PaymentProcessor.validTypes := by decide

/-- The routes that the validation gives to the rows of a purchase. -/
structure Routed {orderId : String} (purchase : Purchase orderId) : Prop where
  payment : PaymentProcessor.processPaymentsWithSQL.RoutesClean purchase.payment.toSource
  orderClean : purchase.order.customerId ≠ none →
    OrderProcessor.processOrdersWithSQL.RoutesClean purchase.order.toSource
  orderError : purchase.order.customerId = none →
    OrderProcessor.processOrdersWithSQL.RoutesError purchase.order.toSource "Invalid customer ID"
  itemClean : ∀ item ∈ purchase.items, item.productId ≠ none →
    OrderItemProcessor.processOrderItemsWithSQL.RoutesClean item.toSource
  itemError : ∀ item ∈ purchase.items, item.productId = none →
    OrderItemProcessor.processOrderItemsWithSQL.RoutesError item.toSource "Invalid product ID"

variable {orderId : String} (purchase : Purchase orderId)

theorem orderId_length (purchase : Purchase orderId) : orderId.length ≤ 50 := by
  rw [← purchase.id]
  exact purchase.order.orderId.property

theorem payment_routesClean :
    PaymentProcessor.processPaymentsWithSQL.RoutesClean purchase.payment.toSource := by
  apply Processor.routesClean_of_selects _ payments_complementary
  apply (whereAll_eq_true_iff _).mpr
  obtain ⟨type, member, known⟩ := purchase.paymentType
  obtain ⟨value, stored, low, high⟩ := purchase.paymentValue
  have positive : 0 < value := by linarith
  have bounded : value ≤ 50000 := by linarith
  simp [PaymentProcessor.cleanConjuncts, charLength, PaymentsRow.toSource, purchase.paymentOrder,
    known, stored, orderId_length purchase, paymentTypes_valid type member, positive, bounded]

theorem order_routesClean (known : purchase.order.customerId ≠ none) :
    OrderProcessor.processOrdersWithSQL.RoutesClean purchase.order.toSource := by
  apply Processor.routesClean_of_selects _ orders_complementary
  apply (whereAll_eq_true_iff _).mpr
  obtain ⟨customer, stored⟩ := Option.ne_none_iff_exists'.mp known
  obtain ⟨status, member, named⟩ := purchase.status
  have short := customer.property
  simp [OrderProcessor.cleanConjuncts, charLength, OrdersRow.toSource, purchase.id, stored, named,
    orderId_length purchase, purchase.purchased, statuses_valid status member, short]

/-- A missing customer fails the second message branch, and the first one does not hold. -/
theorem order_routesError (missing : purchase.order.customerId = none) :
    OrderProcessor.processOrdersWithSQL.RoutesError purchase.order.toSource
      "Invalid customer ID" := by
  have source : purchase.order.toSource.orderId = some orderId := congrArg some purchase.id
  have customer : purchase.order.toSource.customerId = none := by
    rw [OrdersRow.toSource, missing]
    rfl
  have short := orderId_length purchase
  apply Processor.routesError_of_false _ orders_complementary
  · apply (whereAll_eq_false_iff _).mpr
    refine ⟨(.customerId, isNotNull purchase.order.toSource.customerId), ?_, ?_⟩
    · simp [OrderProcessor.cleanConjuncts]
    · rw [customer]
      rfl
  · intro now
    change OrderProcessor.errorMessage _ = _
    have long : ¬ 50 < orderId.length := by omega
    simp [OrderProcessor.errorMessage, OrderProcessor.messageBranches, caseWhen, charLength,
      source, customer, Truth.or_eq_true_iff, long]

theorem item_routesClean (item : OrderItemsRow) (member : item ∈ purchase.items)
    (known : item.productId ≠ none) :
    OrderItemProcessor.processOrderItemsWithSQL.RoutesClean item.toSource := by
  apply Processor.routesClean_of_selects _ orderItems_complementary
  apply (whereAll_eq_true_iff _).mpr
  obtain ⟨product, stored⟩ := Option.ne_none_iff_exists'.mp known
  obtain ⟨price, priced, priceLow, priceHigh⟩ := purchase.prices item member
  obtain ⟨freight, freighted, freightLow, freightHigh⟩ := purchase.freights item member
  have short := product.property
  have priceMin : 0 ≤ price := by linarith
  have priceMax : price ≤ 10000 := by linarith
  have freightMin : 0 ≤ freight := by linarith
  have freightMax : freight ≤ 10000 := by linarith
  simp [OrderItemProcessor.cleanConjuncts, charLength, OrderItemsRow.toSource,
    purchase.itemOrders item member, stored, priced, freighted, orderId_length purchase, short,
    priceMin, priceMax, freightMin, freightMax]

/-- A missing product fails the second message branch, and the first one does not hold. -/
theorem item_routesError (item : OrderItemsRow) (member : item ∈ purchase.items)
    (missing : item.productId = none) :
    OrderItemProcessor.processOrderItemsWithSQL.RoutesError item.toSource
      "Invalid product ID" := by
  have source : item.toSource.orderId = some orderId := purchase.itemOrders item member
  have product : item.toSource.productId = none := by
    rw [OrderItemsRow.toSource, missing]
    rfl
  have short := orderId_length purchase
  apply Processor.routesError_of_false _ orderItems_complementary
  · apply (whereAll_eq_false_iff _).mpr
    refine ⟨(.productId, isNotNull item.toSource.productId), ?_, ?_⟩
    · simp [OrderItemProcessor.cleanConjuncts]
    · rw [product]
      rfl
  · intro now
    change OrderItemProcessor.errorMessage _ = _
    have long : ¬ 50 < orderId.length := by omega
    simp [OrderItemProcessor.errorMessage, OrderItemProcessor.messageBranches, caseWhen,
      charLength, source, product, Truth.or_eq_true_iff, long]

/-- The validation agrees with the generator about each purchase. -/
theorem routed : Routed purchase where
  payment := payment_routesClean purchase
  orderClean := order_routesClean purchase
  orderError := order_routesError purchase
  itemClean := item_routesClean purchase
  itemError := item_routesError purchase

end Routes

/-- In any run from any state, each order that a call commits is routed by its missing ids only. -/
theorem generated_rows_routed (session : GeneratorSession) (jobs : List Job) (draws : OrderDraws) :
    let reached := runJobs session jobs
    match (generateOrder draws).runOn reached with
    | (.error _, _) => True
    | (.ok _, after) => ∃ purchase : Purchase draws.orderId,
        Adds purchase reached.committed after.committed ∧ Routed purchase := by
  dsimp only
  rcases generateOrder_outcome (runJobs session jobs) draws with
    ⟨fault, failed⟩ | ⟨purchase, after, adds, done⟩
  · rw [failed]
    trivial
  · rw [done]
    exact ⟨purchase, adds, routed purchase⟩

end OdsPipeline
