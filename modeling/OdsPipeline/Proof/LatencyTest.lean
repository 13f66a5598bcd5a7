import OdsPipeline.Construction.LatencyTest
import OdsPipeline.Library.Survival
import OdsPipeline.Proof.Balance
import OdsPipeline.Proof.GeneratedRows

namespace OdsPipeline.DataGenerator
open Library SqlQueries Postgres Program StarRocks

section Draws

/-- The draw gives an id and not NULL. -/
def IdDraws.Named (draws : IdDraws) (rate : ℚ) (existing : List String) : Prop :=
  draws.isNull = false ∨ existing ≠ [] ∧ rate ≤ draws.chance.val

theorem getRandomId_eq_none_iff (label : String) (rate : ℚ) (draws : IdDraws)
    (existing : List String) :
    getRandomId label rate draws existing = none ↔ ¬ draws.Named rate existing := by
  have invalid : invalidId label draws = none ↔ draws.isNull = true := by
    unfold invalidId
    split <;> simp_all
  cases existing with
  | nil => simp [getRandomId, invalid, IdDraws.Named]
  | cons first rest =>
      rw [getRandomId]
      split
      · next small => simp [invalid, IdDraws.Named, small]
      · next large => simp [IdDraws.Named, not_lt.mp large]

theorem assignNullable_eq_none_iff {bound : Nat} {text : Option String}
    {value : Option (Varchar bound)} (assigned : assignNullable bound text = .ok value) :
    value = none ↔ text = none := by
  cases text with
  | none =>
      cases assigned
      simp
  | some text =>
      rw [assignNullable] at assigned
      cases stored : assignVarchar bound text with
      | error fault =>
          rw [stored] at assigned
          cases assigned
      | ok kept =>
          rw [stored] at assigned
          cases assigned
          simp

end Draws

section Insert
variable (draws : TestDraws)

theorem space_notMem_testOrderId : ' ' ∉ draws.testOrderId.toList := by
  simp only [TestDraws.testOrderId, String.toList_append, List.mem_append, not_or]
  exact ⟨by decide, space_notMem_toString_int _⟩

/-- A test order is a purchase of one item. Its customer is missing when the drawn id is. -/
def PlacesTest (customerId : Option String) (before after : Database) : Prop :=
  ∃ purchase : Purchase draws.testOrderId, Adds purchase before after ∧
    (purchase.order.customerId = none ↔ customerId = none) ∧ purchase.order.isDeleted = some false

theorem placesTest_of_inserts (customerId productId : Option String) (before placed filled paid : Database)
    (ordered : insertOrders draws.testOrderId customerId "pending" draws.now none before = .ok placed)
    (itemized : insertOrderItems draws.itemId draws.testOrderId productId (9999 / 100) (999 / 100)
      placed = .ok filled)
    (charged : insertPayments draws.paymentId draws.testOrderId "credit_card" (10998 / 100) filled =
      .ok paid) : PlacesTest draws customerId before paid := by
  have solid := space_notMem_testOrderId draws
  obtain ⟨order, orderRows, placedEq, assigned, status, purchased, customer, live⟩ :=
    insertOrders_ok ordered
  obtain ⟨item, itemRows, filledEq, itemOrder, price, freight⟩ := insertOrderItems_ok itemized
  obtain ⟨payment, paymentRows, paidEq, paymentOrder, type, value⟩ := insertPayments_ok charged
  let purchase : Purchase draws.testOrderId := {
    order := order
    items := [item]
    payment := payment
    id := assignVarchar_eq 50 _ _ solid assigned
    status := ⟨"pending", by decide, toText_assigned (by decide) status⟩
    purchased := by rw [purchased]; rfl
    itemOrders := by
      rw [List.forall_mem_singleton]
      exact toText_assigned solid itemOrder
    prices := by
      rw [List.forall_mem_singleton]
      exact ⟨_, price, by norm_num, by norm_num⟩
    freights := by
      rw [List.forall_mem_singleton]
      exact ⟨_, freight, by norm_num, by norm_num⟩
    itemCount := by simp
    paymentOrder := toText_assigned solid paymentOrder
    paymentType := ⟨"credit_card", by decide, toText_assigned (by decide) type⟩
    paymentValue := ⟨_, value, by norm_num, by norm_num⟩ }
  refine ⟨purchase, ?_, assignNullable_eq_none_iff customer, live⟩
  rw [placedEq] at itemRows filledEq
  rw [filledEq] at paymentRows paidEq
  rw [paidEq]
  exact {
    orders := orderRows
    orderItems := itemRows
    payments := paymentRows
    customers := rfl
    products := rfl
    reviews := rfl }

theorem works_insertTestRows (customerId productId : Option String) (before : Database) :
    Works (· = before) (insertTestRows draws draws.testOrderId customerId productId)
      fun _ view => PlacesTest draws customerId before view := by
  apply works_bind (works_executeUpdate (fun view =>
    insertOrders draws.testOrderId customerId "pending" draws.now none before = .ok view) ?_)
  · intro _
    apply works_bind (works_executeUpdate (fun view => ∃ placed,
      insertOrders draws.testOrderId customerId "pending" draws.now none before = .ok placed ∧
        insertOrderItems draws.itemId draws.testOrderId productId (9999 / 100) (999 / 100) placed =
          .ok view) ?_)
    · intro _
      apply works_executeUpdate
      intro filled paid ⟨placed, ordered, itemized⟩ charged
      exact placesTest_of_inserts draws customerId productId before placed filled paid ordered
        itemized (attempt_eq_ok charged)
    · intro placed filled ordered itemized
      exact ⟨placed, ordered, attempt_eq_ok itemized⟩
  · rintro view placed rfl ordered
    exact attempt_eq_ok ordered

/-- A test leaves the session as it was, or it commits a purchase. -/
theorem insertTestOrder_outcome (session : GeneratorSession) (customerId productId : Option String) :
    (∃ fault, (insertTestOrder draws draws.testOrderId customerId productId).runOn session =
        (.error fault, { session with working := none })) ∨
      ∃ after, PlacesTest draws customerId session.committed after ∧
        (insertTestOrder draws draws.testOrderId customerId productId).runOn session =
          (.ok (), ⟨after, none, session.memory⟩) := by
  have outcome := runOn_transaction_plain session draws.connectFault draws.commitFault
    (works_insertTestRows draws customerId productId session.committed)
  rcases outcome with failed | ⟨_, after, placed, done⟩
  · exact .inl failed
  · exact .inr ⟨after, placed, done⟩

end Insert

section Pipeline

/-- The orders job has read the insert of a row, and nothing about its order after it. -/
def Delivered (row : OrdersRow) (tables : CleanTables) : Prop :=
  ∃ records before now later, tables = (OdsETLJob.main.run records).cleanTables ∧
    records.filterMap OdsETLJob.ordersRecord = before ++ (now, ⟨.insert, row.toSource⟩) :: later ∧
      ∀ record ∈ later, record.2.row.orderId ≠ some row.orderId.val

/-- A live clean row is in the table once it is delivered. -/
theorem mem_orders_of_delivered (row : OrdersRow) (tables : CleanTables)
    (clean : OrderProcessor.processOrdersWithSQL.clean.Selects row.toSource)
    (live : row.isDeleted = some false) (delivered : Delivered row tables) :
    ∃ o ∈ tables.orders.rows, o.orderId = row.orderId.val := by
  obtain ⟨records, before, now, later, rfl, read, others⟩ := delivered
  let statement := OrderProcessor.processOrdersWithSQL.clean
  have written : (statement.deliver true (KeyedTable.empty _)
      (records.filterMap OdsETLJob.ordersRecord)).lookup (some row.orderId.val) =
        some (statement.select now row.toSource) := by
    rw [read, ← List.singleton_append, ← List.append_assoc, InsertSelect.deliver_append,
      InsertSelect.lookup_deliver_of_untouched, InsertSelect.deliver_append,
      InsertSelect.lookup_deliver_one, if_pos ⟨.inl rfl, clean, rfl⟩]
    intro record member
    have other := others record member
    exact ⟨fun writes => other writes.2.2, fun retracts => other retracts.2.2⟩
  have member : statement.select now row.toSource ∈ (OdsETLJob.main.run records).orders.clean.rows := by
    rw [OdsETLJob.Jobs.run_orders]
    exact (KeyedTable.lookup_eq_some _ _ _ written).1
  have valid := (whereAll_eq_true_iff _).mp clean
  simp only [OrderProcessor.cleanConjuncts, List.forall_mem_cons, isNotNull_eq_true_iff,
    check_eq_true_iff, Option.isSome_iff_exists] at valid
  obtain ⟨-, -, ⟨customer, named⟩, -, ⟨status, known, -⟩, ⟨purchase, purchased⟩, -⟩ := valid
  let stored : OdsOrders := {
    orderId := row.orderId.val
    customerId := customer
    orderStatus := status
    orderPurchaseTimestamp := purchase
    orderDeliveredCustomerDate := row.orderDeliveredCustomerDate
    orderEstimatedDeliveryDate := row.orderEstimatedDeliveryDate
    isDeleted := false }
  have kept : OdsOrders.ofData (statement.select now row.toSource).data = some stored :=
    (OdsOrders.ofData_eq_some_iff _ _).mpr ⟨rfl, named, known, purchased, rfl, rfl, live⟩
  exact ⟨stored, List.mem_filterMap.mpr ⟨_, member, kept⟩, rfl⟩

theorem checkOrderInStarRocks_eq_true (orderId : String) (look : Attempt)
    (connected : look.connectionLost = false) (stored : ∃ o ∈ look.tables.orders.rows, o.orderId = orderId) :
    checkOrderInStarRocks orderId look = true := by
  obtain ⟨o, member, same⟩ := stored
  have found : o ∈ look.tables.orders.rows.filter fun o => o.orderId = orderId :=
    List.mem_filter.mpr ⟨member, decide_eq_true same⟩
  rw [checkOrderInStarRocks, connected, Bool.not_false, Bool.true_and]
  exact decide_eq_true (List.length_pos_of_mem found)

end Pipeline

section Wait
variable (orderId : String) (startTime : Int) (looks : Nat → Attempt)

/-- A round that finds the order reports a positive latency unless the wait is interrupted. -/
theorem waitRounds_pos (found : Nat) (seen : checkOrderInStarRocks orderId (looks found) = true)
    (running : ∀ round ≤ found, (looks round).interrupted = false) (left round : Nat) (clock : Int)
    (started : startTime ≤ clock) (inside : round ≤ found ∧ found < round + left) :
    0 < waitRounds orderId startTime looks left round clock := by
  induction left generalizing round clock with
  | zero => omega
  | succ left ih =>
      have later : clock < clock + (attemptInterval + (looks round).moreMillis) := by
        have interval : attemptInterval = 1000 := rfl
        omega
      rw [waitRounds, running round inside.1]
      simp only [Bool.false_eq_true, if_false]
      split
      · omega
      · next unseen =>
          have different : round ≠ found := by
            rintro rfl
            exact unseen seen
          exact ih (round + 1) _ (by omega) (by omega)

/-- No interrupt ends the wait before a round. -/
def Uninterrupted (found : Nat) : Prop := ∀ round ≤ found, (looks round).interrupted = false

/-- At a round the pipeline has delivered the row, and its tables can be read. -/
def FaultFree (row : OrdersRow) (found : Nat) : Prop :=
  (looks found).connectionLost = false ∧ Delivered row (looks found).tables

end Wait

section Tests

/-- A test that has committed its order tells about the pipeline only. -/
structure MeasuresPipeline (session : GeneratorSession) (draws : TestDraws) (row : OrdersRow) :
    Prop where
  clean : OrderProcessor.processOrdersWithSQL.clean.Selects row.toSource
  seen : ∀ look : Attempt, look.connectionLost = false → Delivered row look.tables →
    checkOrderInStarRocks draws.testOrderId look = true
  blames : ∀ looks, ((performLatencyTest draws looks).runOn session).1 = .ok .notFound →
    ∀ found, 1 ≤ found → found ≤ maxAttempts → Uninterrupted looks found →
      ¬ FaultFree looks row found

theorem performLatencyTest_of_ok (session after : GeneratorSession) (draws : TestDraws)
    (looks : Nat → Attempt)
    (done : (insertTestOrder draws draws.testOrderId
      (getRandomCustomerId draws.customer session.memory.existingCustomers)
      (getRandomProductId draws.product session.memory.existingProducts)).runOn session =
        (.ok (), after)) :
    ((performLatencyTest draws looks).runOn session).1 =
      .ok (if 0 < waitForDataInStarRocks draws.testOrderId draws.startTime looks then
        .result (waitForDataInStarRocks draws.testOrderId draws.startTime looks) else .notFound) := by
  unfold performLatencyTest
  rw [runOn_bind]
  change (runOn (tryCatch _ _) session).1 = _
  rw [runOn_tryCatch, runOn_bind, done]
  rfl

/-- A wait over a faultless pipeline reports a latency. -/
theorem waitForDataInStarRocks_pos (draws : TestDraws) (row : OrdersRow) (looks : Nat → Attempt)
    (seen : ∀ look : Attempt, look.connectionLost = false → Delivered row look.tables →
      checkOrderInStarRocks draws.testOrderId look = true) (found : Nat) (low : 1 ≤ found)
    (high : found ≤ maxAttempts) (running : Uninterrupted looks found)
    (faultFree : FaultFree looks row found) :
    0 < waitForDataInStarRocks draws.testOrderId draws.startTime looks :=
  waitRounds_pos _ _ looks found (seen _ faultFree.1 faultFree.2) running maxAttempts 1 _ le_rfl
    ⟨low, by omega⟩

/-- A committed test tells about the pipeline only exactly when it has drawn a customer. -/
theorem latency_test_measures_iff (session : GeneratorSession) (draws : TestDraws) :
    match (insertTestOrder draws draws.testOrderId
      (getRandomCustomerId draws.customer session.memory.existingCustomers)
      (getRandomProductId draws.product session.memory.existingProducts)).runOn session with
    | (.error _, after) => after.committed = session.committed
    | (.ok _, after) => ∃ row,
        after.committed.orders.rows = session.committed.orders.rows ++ [row] ∧
        row.orderId.val = draws.testOrderId ∧
        (MeasuresPipeline session draws row ↔
          draws.customer.Named (1 / 10) session.memory.existingCustomers) := by
  rcases insertTestOrder_outcome draws session
      (getRandomCustomerId draws.customer session.memory.existingCustomers)
      (getRandomProductId draws.product session.memory.existingProducts) with
    ⟨fault, failed⟩ | ⟨after, ⟨purchase, adds, missing, live⟩, done⟩
  · rw [failed]
  · rw [done]
    refine ⟨purchase.order, adds.orders, purchase.id, ?_⟩
    have drawn : purchase.order.customerId = none ↔
        ¬ draws.customer.Named (1 / 10) session.memory.existingCustomers :=
      missing.trans (getRandomId_eq_none_iff _ _ _ _)
    constructor
    · intro measures
      by_contra unnamed
      have rejected := order_routesError purchase (drawn.mpr unnamed)
      exact rejected.2.1 measures.clean
    · intro named
      have clean := (order_routesClean purchase fun none => drawn.mp none named).1
      have seen (look : Attempt) (connected : look.connectionLost = false)
          (delivered : Delivered purchase.order look.tables) :
          checkOrderInStarRocks draws.testOrderId look = true := by
        apply checkOrderInStarRocks_eq_true _ look connected
        rw [← purchase.id]
        exact mem_orders_of_delivered purchase.order look.tables clean live delivered
      refine ⟨clean, seen, fun looks notFound found low high running faultFree => ?_⟩
      have positive := waitForDataInStarRocks_pos draws purchase.order looks seen found low high
        running faultFree
      rw [performLatencyTest_of_ok session _ draws looks done, if_pos positive] at notFound
      cases notFound

/-- A test that draws NULL for its customer and for its product. -/
def nothingDrawn : TestDraws where
  currentTimeMillis := 0
  customer := fourTenths.customer
  product := fourTenths.customer
  startTime := 0
  now := 0
  itemId := 0
  paymentId := 0
  connectFault := none
  orderFault := none
  itemFault := none
  paymentFault := none
  commitFault := none

def nobodysOrder : OrdersRow where
  orderId := ⟨"latency_test_0", by decide⟩
  customerId := none
  orderStatus := some ⟨"pending", by decide⟩
  orderPurchaseTimestamp := some 0
  orderDeliveredCustomerDate := none
  orderEstimatedDeliveryDate := none
  isDeleted := some false

/-- The pipeline has read the order before the first round. -/
def readAtOnce : Nat → Attempt := fun _ =>
  ⟨false, false, (OdsETLJob.main.run [(0, .orders ⟨.insert, nobodysOrder.toSource⟩)]).cleanTables, 0⟩

/-- The order of the test commits, but a faultless pipeline does not show it. -/
theorem nobodys_order_not_found :
    let session := startSession emptyDatabase [] []
    let outcome := (insertTestOrder nothingDrawn nothingDrawn.testOrderId
      (getRandomCustomerId nothingDrawn.customer []) (getRandomProductId nothingDrawn.product [])).runOn
        session
    outcome.1 = .ok () ∧ outcome.2.committed.orders.rows = [nobodysOrder] ∧
      ¬ OrderProcessor.processOrdersWithSQL.clean.Selects nobodysOrder.toSource ∧
      Uninterrupted readAtOnce 1 ∧ FaultFree readAtOnce nobodysOrder 1 ∧
      ((performLatencyTest nothingDrawn readAtOnce).runOn session).1 = .ok .notFound := by
  refine ⟨by decide +kernel, by decide +kernel, by decide +kernel, fun _ _ => rfl, ?_,
    by decide +kernel⟩
  refine ⟨rfl, _, [], 0, [], rfl, rfl, ?_⟩
  simp

end Tests

end OdsPipeline.DataGenerator
