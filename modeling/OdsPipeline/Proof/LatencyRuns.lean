import OdsPipeline.Proof.Frontiers
import OdsPipeline.Proof.LatencyReports
import OdsPipeline.Proof.SourceRows

namespace OdsPipeline
open Library SqlQueries Postgres OdsETLJob DataGenerator StarRocks

section Clean

/-- A live clean order is stored under its id. -/
theorem exists_stored_of_passes (row : OrdersRow) (passes : ordersFeed.passes row = true)
    (live : row.isDeleted = some false) :
    ∃ o, OdsOrders.ofData (ordersFeed.cleanData row) = some o ∧ o.orderId = row.orderId.val := by
  have valid := (whereAll_eq_true_iff _).mp (of_decide_eq_true passes)
  simp only [OrderProcessor.cleanConjuncts, List.forall_mem_cons, isNotNull_eq_true_iff,
    check_eq_true_iff, Option.isSome_iff_exists] at valid
  obtain ⟨-, -, ⟨customer, named⟩, -, ⟨status, known, -⟩, ⟨purchase, purchased⟩, -⟩ := valid
  let stored : OdsOrders := {
    orderId := row.orderId.val
    customerId := customer
    orderStatus := status
    orderPurchaseTimestamp := purchase
    orderDeliveredCustomerDate := row.orderDeliveredCustomerDate
    orderEstimatedDeliveryDate := row.orderEstimatedDeliveryDate
    isDeleted := false }
  exact ⟨stored, (OdsOrders.ofData_eq_some_iff _ _).mpr
    ⟨rfl, named, known, purchased, rfl, rfl, live⟩, rfl⟩

/-- A row without repetition is among the first ones exactly when its position is. -/
theorem mem_take_iff_of_nodup {Row : Type*} {rows : List Row} (distinct : rows.Nodup) {row : Row}
    {index : Nat} (found : rows[index]? = some row) (count : Nat) :
    row ∈ rows.take count ↔ index < count := by
  obtain ⟨inside, isRow⟩ := List.getElem?_eq_some_iff.mp found
  constructor
  · intro member
    obtain ⟨other, few, same⟩ := List.mem_take_iff_getElem.mp member
    have equal := (distinct.getElem_inj_iff).mp (same.trans isRow.symm)
    omega
  · intro few
    exact List.mem_take_iff_getElem.mpr ⟨index, Nat.lt_min.mpr ⟨few, inside⟩, isRow⟩

end Clean

/-- A latency test beside a run of the pipeline. Its order is committed at one moment, and each of
its rounds looks at some later one. -/
structure WatchedTest where
  run : InsertingRun
  session : GeneratorSession
  draws : TestDraws
  after : GeneratorSession
  done : (insertTestOrder draws draws.testOrderId
    (getRandomCustomerId draws.customer session.memory.existingCustomers)
    (getRandomProductId draws.product session.memory.existingProducts)).runOn session =
      (.ok (), after)
  placed : Nat
  stored : Database.empty.commitAll (run.states placed).history = after.committed
  moments : Nat → Nat
  later : ∀ round, placed ≤ moments round
  interrupted : Nat → Bool
  connectionLost : Nat → Bool
  moreMillis : Nat → Nat

namespace WatchedTest
variable (test : WatchedTest)

/-- Each round looks at the clean tables of its moment. -/
def looks (round : Nat) : Attempt where
  interrupted := test.interrupted round
  connectionLost := test.connectionLost round
  tables := (test.run.states (test.moments round)).jobs.cleanTables
  moreMillis := test.moreMillis round

/-- The test has drawn a customer for its order. -/
def Named : Prop := test.draws.customer.Named (1 / 10) test.session.memory.existingCustomers

/-- The round has a connection, and the orders job has published the order before it. -/
def Shown (round : Nat) : Prop :=
  test.connectionLost round = false ∧
    test.session.committed.orders.rows.length < test.run.published .orders (test.moments round)

/-- The first round that shows the order, after rounds without an interrupt. -/
structure FirstShown (found : Nat) : Prop where
  late : 1 ≤ found
  waits : ∀ round, 1 ≤ round → round ≤ found - 1 →
    test.interrupted round = false ∧ ¬ test.Shown round
  running : test.interrupted found = false
  shown : test.Shown found

/-- The order of the test, which is valid exactly when it has a customer. -/
theorem exists_order : ∃ order : OrdersRow,
    test.after.committed.orders.rows = test.session.committed.orders.rows ++ [order] ∧
      order.orderId.val = test.draws.testOrderId ∧ order.isDeleted = some false ∧
      (ordersFeed.passes order = true ↔ test.Named) := by
  rcases insertTestOrder_outcome test.draws test.session
      (getRandomCustomerId test.draws.customer test.session.memory.existingCustomers)
      (getRandomProductId test.draws.product test.session.memory.existingProducts) with
    ⟨fault, failed⟩ | ⟨after, ⟨purchase, adds, missing, live⟩, done⟩
  · rw [test.done] at failed
    cases failed
  · have settled := (Prod.mk.inj (test.done.symm.trans done)).2
    have drawn := missing.trans (getRandomId_eq_none_iff _ _ _ _)
    refine ⟨purchase.order, by rw [settled]; exact adds.orders, purchase.id, live, ?_⟩
    constructor
    · intro passes
      by_contra unnamed
      exact (order_routesError purchase (drawn.mpr unnamed)).2.1 (of_decide_eq_true passes)
    · intro named
      exact decide_eq_true (order_routesClean purchase fun none => drawn.mp none named).1

/-- The order has its place in the source table at each later moment. -/
theorem getElem?_order {order : OrdersRow} (round : Nat)
    (committed : test.after.committed.orders.rows =
      test.session.committed.orders.rows ++ [order]) :
    (Database.empty.commitAll (test.run.states (test.moments round)).history).orders.rows[
      test.session.committed.orders.rows.length]? = some order := by
  obtain ⟨more, grown⟩ := ordersErrors.rows_grow test.run (test.later round)
  change _ = (Database.empty.commitAll _).orders.rows at grown
  rw [test.stored] at grown
  change test.after.committed.orders.rows ++ more = _ at grown
  rw [← grown, committed, List.append_assoc, List.getElem?_append_right (Nat.le_refl _),
    Nat.sub_self]
  rfl

/-- A look sees the order exactly when it has a customer, the connection holds and a checkpoint of
the orders job has published it, however often the job has gone back since. -/
theorem check_eq_true_iff (round : Nat) :
    checkOrderInStarRocks test.draws.testOrderId (test.looks round) = true ↔
      test.Named ∧ test.Shown round := by
  obtain ⟨order, committed, own, live, valid⟩ := test.exists_order
  let source := (Database.empty.commitAll (test.run.states (test.moments round)).history).orders
  have found := test.getElem?_order round committed
  have isPublished := mem_take_iff_of_nodup source.distinct.of_map found
    (test.run.published .orders (test.moments round))
  have shows := (test.run.orders_showForGood (test.moments round)).shows
  have kept := List.Perm.filterMap OdsOrders.ofData shows
  rw [List.filterMap_map] at kept
  have tables (o : OdsOrders) : o ∈ (test.looks round).tables.orders.rows ↔
      o ∈ (((ordersFeed.publishedRows .orders test.run (test.moments round)).filter
        ordersFeed.passes).map ordersFeed.cleanData).filterMap OdsOrders.ofData := kept.mem_iff
  have counted : checkOrderInStarRocks test.draws.testOrderId (test.looks round) = true ↔
      test.connectionLost round = false ∧
        ∃ o ∈ (test.looks round).tables.orders.rows, o.orderId = test.draws.testOrderId := by
    simp [checkOrderInStarRocks, looks, List.length_pos_iff_exists_mem]
  rw [counted, Shown, ← valid, ← isPublished]
  constructor
  · rintro ⟨connected, o, stored, same⟩
    obtain ⟨data, inside, isStored⟩ := List.mem_filterMap.mp ((tables o).mp stored)
    obtain ⟨row, member, rfl⟩ := List.mem_map.mp inside
    obtain ⟨part, passes⟩ := List.mem_filter.mp member
    have key : row.orderId.val = o.orderId :=
      Option.some.inj ((OdsOrders.ofData_eq_some_iff _ _).mp isStored).1
    have equal : row = order := List.inj_on_of_nodup_map source.distinct
      (List.mem_of_mem_take part) (List.mem_of_getElem? found)
      (Subtype.ext (key.trans (same.trans own.symm)))
    subst equal
    exact ⟨passes, connected, part⟩
  · rintro ⟨passes, connected, part⟩
    obtain ⟨o, isStored, key⟩ := exists_stored_of_passes order passes live
    refine ⟨connected, o, (tables o).mpr (List.mem_filterMap.mpr ⟨_, ?_, isStored⟩),
      key.trans own⟩
    exact List.mem_map_of_mem (List.mem_filter.mpr ⟨part, passes⟩)

/-- The first round that sees the order is the first one that shows it. -/
theorem firstSeen_iff (found : Nat) :
    FirstSeen test.draws.testOrderId test.looks found ↔ test.Named ∧ test.FirstShown found := by
  constructor
  · intro first
    obtain ⟨named, shown⟩ := (test.check_eq_true_iff found).mp first.seen
    refine ⟨named, first.late, ?_, first.running, shown⟩
    intro round late early
    obtain ⟨running, unseen⟩ := first.waits round late early
    refine ⟨running, fun here => ?_⟩
    rw [(test.check_eq_true_iff round).mpr ⟨named, here⟩] at unseen
    cases unseen
  · rintro ⟨named, first⟩
    refine ⟨first.late, ?_, first.running, (test.check_eq_true_iff found).mpr ⟨named, first.shown⟩⟩
    intro round late early
    obtain ⟨running, hidden⟩ := first.waits round late early
    exact ⟨running, Bool.eq_false_iff.mpr fun seen =>
      hidden ((test.check_eq_true_iff round).mp seen).2⟩

/-- Some round within the attempts shows an order with a customer. -/
def Succeeds (latency : Int) : Prop :=
  test.Named ∧ ∃ found ≤ maxAttempts, test.FirstShown found ∧ latency = elapsed test.looks found

def report : Except SqlError LatencyReport :=
  ((performLatencyTest test.draws test.looks).runOn test.session).1

/-- Beside any run of the pipeline, with restarts of its jobs, a test reports the time of the first
round that has a connection after the orders job has published its order. It reports a missing order
exactly when there is no such round or the order has no customer. -/
theorem latency_test_follows_orders_job :
    (∀ latency, test.report = .ok (.result latency) ↔ test.Succeeds latency) ∧
      (test.report = .ok .notFound ↔ ∀ latency, ¬ test.Succeeds latency) := by
  have ran : test.report = _ :=
    performLatencyTest_of_ok test.session test.after test.draws test.looks test.done
  rcases waitForDataInStarRocks_cases test.draws.startTime test.draws.testOrderId test.looks with
    ⟨found, few, first, latency⟩ | ⟨never, latency⟩
  · rw [latency, if_pos first.elapsed_pos] at ran
    obtain ⟨named, shown⟩ := (test.firstSeen_iff found).mp first
    rw [ran]
    constructor
    · intro other
      constructor
      · rintro same
        cases same
        exact ⟨named, found, few, shown, rfl⟩
      · rintro ⟨-, round, -, alsoShown, rfl⟩
        rw [first.unique ((test.firstSeen_iff round).mpr ⟨named, alsoShown⟩)]
    · constructor
      · intro same
        cases same
      · intro fails
        exact absurd ⟨named, found, few, shown, rfl⟩ (fails (elapsed test.looks found))
  · rw [latency, if_neg (by decide)] at ran
    have fails (other : Int) : ¬ test.Succeeds other := by
      rintro ⟨named, found, few, shown, -⟩
      exact never ⟨found, few, (test.firstSeen_iff found).mpr ⟨named, shown⟩⟩
    rw [ran]
    constructor
    · intro other
      constructor
      · intro same
        cases same
      · intro succeeds
        exact absurd succeeds (fails other)
    · exact iff_of_true rfl fails

end WatchedTest

section Example

def marketOrder : OrdersRow := { nobodysOrder with customerId := some customerOne }

/-- A customer buys nothing but a test order. -/
def market : List Statement := [
  .customers (.insert ⟨customerOne, some personOne, some lima, some saoPaulo, some false⟩),
  .orders (.insert marketOrder),
  .orderItems (.insert ⟨0, some marketOrder.orderId, none, some (9999 / 100), some (999 / 100),
    some false⟩),
  .payments (.insert ⟨0, some marketOrder.orderId, some creditCard, some (10998 / 100),
    some false⟩)]

/-- All four rows are committed, and no job has read one. -/
def marketBought : Pipeline := { Pipeline.start with history := market }

/-- The orders job has read the order, but nobody can see it. -/
def marketRead : Pipeline :=
  marketBought.read .orders (0, .orders ⟨.insert, marketOrder.toSource⟩)

def marketFlushed : Pipeline := marketRead.flush .orders 1 (Nat.le_refl 1)

/-- A checkpoint has published the order. -/
def marketPublished : Pipeline := marketFlushed.publish .orders 1

def marketRestarted : Pipeline := marketPublished.restart .orders 0

/-- The orders job publishes the order and goes back to its start for good. -/
def marketStates : Nat → Pipeline
  | 0 => .start
  | 1 => { Pipeline.start with history := market.take 1 }
  | 2 => { Pipeline.start with history := market.take 2 }
  | 3 => { Pipeline.start with history := market.take 3 }
  | 4 => marketBought
  | 5 => marketRead
  | 6 => marketFlushed
  | 7 => marketPublished
  | _ + 8 => marketRestarted

theorem market_moves (moment : Nat) : (marketStates moment).Moves (marketStates (moment + 1)) := by
  have again : marketRestarted.restart .orders 0 = marketRestarted := by
    rw [marketRestarted, Pipeline.restart, Pipeline.restart, Pipeline.enter, Pipeline.enter,
      Function.update_idem]
  have inside : 1 ≤ (marketRead.readers .orders).pending.length := Nat.le_refl 1
  have more : (marketRead.readers .orders).flushed ≤ 1 := Nat.zero_le 1
  have written : 1 ≤ (marketFlushed.readers .orders).flushed := Nat.le_refl 1
  rcases moment with _ | _ | _ | _ | _ | _ | _ | _ | moment
  · exact .commits _
  · exact .commits _
  · exact .commits _
  · exact .commits _
  · exact .reads .orders 0 _ rfl
  · exact .flushes .orders 1 inside more
  · exact .publishes .orders 1 written
  · exact .restarts .orders 0 (Nat.zero_le _)
  · have moved : marketRestarted.Moves _ := .restarts .orders 0 (Nat.zero_le _)
    rwa [again] at moved

theorem market_inserts : ∀ next ∈ market, next.Inserts := by
  simp [market, Statement.Inserts]

theorem history_marketStates (moment : Nat) : (marketStates moment).history <+: market := by
  rcases moment with _ | _ | _ | _ | _ | _ | _ | _ | moment
  · exact List.nil_prefix
  · exact List.take_prefix 1 market
  · exact List.take_prefix 2 market
  · exact List.take_prefix 3 market
  all_goals exact List.prefix_refl _

def marketDraws : TestDraws :=
  { nothingDrawn with customer := { nothingDrawn.customer with chance := ⟨3 / 7, by decide +kernel⟩ } }

def marketSession : GeneratorSession :=
  startSession (Database.empty.commitAll (market.take 1)) ["c1"] []

def marketOutcome : Except SqlError Unit × GeneratorSession :=
  (insertTestOrder marketDraws marketDraws.testOrderId
    (getRandomCustomerId marketDraws.customer marketSession.memory.existingCustomers)
    (getRandomProductId marketDraws.product marketSession.memory.existingProducts)).runOn
      marketSession

theorem market_stored : Database.empty.commitAll market = marketOutcome.2.committed := by
  apply Database.eq_of_rows <;> decide +kernel

/-- The first round looks before the checkpoint, and the others when the orders job has gone back. -/
def marketTest : WatchedTest where
  run := {
    states := marketStates
    begins := rfl
    moves := market_moves
    inserts moment next member := market_inserts next ((history_marketStates moment).mem member) }
  session := marketSession
  draws := marketDraws
  after := marketOutcome.2
  done := Prod.ext (by decide +kernel : marketOutcome.1 = .ok ()) rfl
  placed := 4
  stored := market_stored
  moments := fun round => if round ≤ 1 then 5 else 8
  later round := by split <;> decide
  interrupted _ := false
  connectionLost _ := false
  moreMillis _ := 0

/-- The order is hidden until the checkpoint, and it stays shown after the restart. -/
theorem market_test_succeeds : marketTest.Succeeds 2000 :=
  (marketTest.latency_test_follows_orders_job.1 2000).mp (by decide +kernel)

/-- The restart takes nothing back. -/
theorem market_order_stays : ordersFeed.ShowsForGood .orders marketTest.run 8 :=
  (marketTest.run.published_rows_stay 8).1

end Example

end OdsPipeline
