import OdsPipeline.Construction.OdsETLJob
import OdsPipeline.Library.Load
import OdsPipeline.Proof.OrderCounts
import OdsPipeline.Proof.SoftDelete
import OdsPipeline.Proof.ValidTables

namespace OdsPipeline
open Library SqlQueries StarRocks MaterializedViews OdsETLJob

section Daily
variable (tables : CleanTables) (date : Date)

/-- The order count of a date is zero when the view has no row for it. -/
def dailyOrdersOn : Nat :=
  ((mvRealtimeDailyMetrics tables).find? fun metrics => metrics.orderDate = date).elim 0
    DailyMetrics.dailyOrders

/-- The sum behind the daily revenue before it is rounded. -/
def revenueOn : ℚ :=
  sumOf (fun row => row.2.paymentValue) (joinedRows tables (purchasedOn date))

/-- The view counts the joined rows of each date. -/
theorem dailyOrdersOn_eq : dailyOrdersOn tables date = (joinedRows tables (purchasedOn date)).length := by
  have shown := elim_find_groupBy (fun row : OdsOrders × OdsPayments =>
    row.1.orderPurchaseTimestamp.date) _ (ordersWithPayments tables) (mvRealtimeDailyMetrics tables)
    (fun _ => Iff.rfl) DailyMetrics.orderDate (fun _ _ => rfl) DailyMetrics.dailyOrders 0 date
  rw [dailyOrdersOn, shown]
  split
  · next none =>
      have nothing : joinedRows tables (purchasedOn date) = [] := none
      rw [nothing]
      rfl
  · rfl

end Daily

/-- The finite sets of live valid rows that arrive. -/
structure LiveRows where
  orders : List OrdersSource
  payments : List PaymentsSource
  validOrders : ∀ row ∈ orders, OrderProcessor.processOrdersWithSQL.clean.Selects row ∧
    row.isDeleted = some false
  validPayments : ∀ row ∈ payments, PaymentProcessor.processPaymentsWithSQL.clean.Selects row ∧
    row.isDeleted = some false
  distinctOrders : (orders.map fun row => row.orderId).Nodup
  distinctPayments : (payments.map fun row => (row.orderId, row.paymentType)).Nodup

/-- The order job and the payment job deliver the rows as inserts in any order. -/
structure Arrival (rows : LiveRows) where
  records : List (Timestamp × OdsETLJob.Record)
  orders : ((records.filterMap ordersRecord).map Prod.snd).Perm
    (rows.orders.map fun row => ⟨.insert, row⟩)
  payments : ((records.filterMap paymentsRecord).map Prod.snd).Perm
    (rows.payments.map fun row => ⟨.insert, row⟩)

/-- The table of a job stores the rows that have arrived. -/
theorem Processor.stored_arrived {Source Data Columns CleanKey ErrorKey Stored : Type}
    [DecidableEq CleanKey] (processor : Processor Source Data Columns CleanKey ErrorKey)
    (keyOf : Source → CleanKey)
    (keyed : ∀ now row, processor.clean.primaryKey (processor.clean.select now row) = keyOf row)
    (cleanSelect : Source → Data)
    (columns : ∀ now row, (processor.clean.select now row).data = cleanSelect row)
    (ofData : Data → Option Stored) (rows : List Source)
    (valid : ∀ row ∈ rows, processor.clean.Selects row) (distinct : (rows.map keyOf).Nodup)
    (arrived part : List (Timestamp × Change Source))
    (perm : (arrived.map Prod.snd).Perm (rows.map fun row => ⟨.insert, row⟩))
    (inside : part.Sublist arrived) :
    (processor.clean.deliver true (KeyedTable.empty _) part).rows.filterMap
        (fun row => ofData row.data) =
      (part.map Prod.snd).filterMap fun change => ofData (cleanSelect change.row) := by
  rw [processor.clean.deliver_arrived id keyOf keyed rows valid distinct arrived perm part inside,
    List.filterMap_map, List.filterMap_map]
  congr 1
  funext record
  exact congrArg ofData (columns record.1 record.2.row)

namespace Arrival
variable {rows : LiveRows} (arrival : Arrival rows) (count : Nat)

/-- The clean tables after a number of records. -/
def tablesAt : CleanTables := (main.run (arrival.records.take count)).cleanTables

def final : CleanTables := (main.run arrival.records).cleanTables

theorem final_eq : arrival.final = arrival.tablesAt arrival.records.length := by
  rw [tablesAt, List.take_length]
  rfl

/-- The clean orders are the orders that have arrived. -/
theorem orders_tablesAt : (arrival.tablesAt count).orders.rows =
    (((arrival.records.take count).filterMap ordersRecord).map Prod.snd).filterMap
      fun change => OdsOrders.ofData (OrderProcessor.cleanSelect change.row) := by
  change (KeyedTable.rows (Jobs.orders _).clean).filterMap _ = _
  rw [Jobs.run_orders]
  apply OrderProcessor.processOrdersWithSQL.stored_arrived (fun row => row.orderId)
    (fun _ _ => rfl) OrderProcessor.cleanSelect (fun _ _ => rfl) OdsOrders.ofData rows.orders
    (fun row member => (rows.validOrders row member).1) rows.distinctOrders _ _ arrival.orders
  exact (List.take_sublist count arrival.records).filterMap ordersRecord

/-- The clean payments are the payments that have arrived. -/
theorem payments_tablesAt : (arrival.tablesAt count).payments.rows =
    (((arrival.records.take count).filterMap paymentsRecord).map Prod.snd).filterMap
      fun change => OdsPayments.ofData (PaymentProcessor.cleanSelect change.row) := by
  change (KeyedTable.rows (Jobs.payments _).clean).filterMap _ = _
  rw [Jobs.run_payments]
  apply PaymentProcessor.processPaymentsWithSQL.stored_arrived
    (fun row => (row.orderId, row.paymentType)) (fun _ _ => rfl) PaymentProcessor.cleanSelect
    (fun _ _ => rfl) OdsPayments.ofData rows.payments
    (fun row member => (rows.validPayments row member).1) rows.distinctPayments _ _
    arrival.payments
  exact (List.take_sublist count arrival.records).filterMap paymentsRecord

/-- A stored payment has a positive value. -/
theorem paymentValue_pos (p : OdsPayments) (member : p ∈ (arrival.tablesAt count).payments.rows) :
    0 < p.paymentValue :=
  (paymentsValid_run _ p member).1

/-- A later step only adds rows to the join. -/
theorem joinedRows_sublist (later : Nat) (order : count ≤ later) (chosen : OdsOrders → Bool) :
    (joinedRows (arrival.tablesAt count) chosen).Sublist
      (joinedRows (arrival.tablesAt later) chosen) := by
  have part : (arrival.records.take count).Sublist (arrival.records.take later) :=
    (List.take_prefix_take_left order).sublist
  have orders : (arrival.tablesAt count).orders.rows.Sublist
      (arrival.tablesAt later).orders.rows := by
    rw [orders_tablesAt, orders_tablesAt]
    exact ((part.filterMap ordersRecord).map Prod.snd).filterMap _
  have payments : (arrival.tablesAt count).payments.rows.Sublist
      (arrival.tablesAt later).payments.rows := by
    rw [payments_tablesAt, payments_tablesAt]
    exact ((part.filterMap paymentsRecord).map Prod.snd).filterMap _
  exact ((join_sublist _ orders payments).filter _).filter _

/-- The order count of a date does not decrease. -/
theorem dailyOrdersOn_mono (later : Nat) (order : count ≤ later) (date : Date) :
    dailyOrdersOn (arrival.tablesAt count) date ≤ dailyOrdersOn (arrival.tablesAt later) date := by
  rw [dailyOrdersOn_eq, dailyOrdersOn_eq]
  exact (arrival.joinedRows_sublist count later order _).length_le

/-- The revenue of a date does not decrease, because each payment has a positive value. -/
theorem revenueOn_mono (later : Nat) (order : count ≤ later) (date : Date) :
    revenueOn (arrival.tablesAt count) date ≤ revenueOn (arrival.tablesAt later) date := by
  apply sumOf_le_of_sublist (arrival.joinedRows_sublist count later order _)
  intro row member
  have joined := (mem_join _ _ _ _).mp (List.mem_of_mem_filter (List.mem_of_mem_filter member))
  exact (arrival.paymentValue_pos later row.2 joined.2.1).le

/-- The arrival order decides only the order of the joined rows. -/
theorem final_perm (other : Arrival rows) :
    (ordersWithPayments arrival.final).Perm (ordersWithPayments other.final) := by
  have orders : arrival.final.orders.rows.Perm other.final.orders.rows := by
    rw [final_eq, final_eq, orders_tablesAt, orders_tablesAt, List.take_length, List.take_length]
    exact (arrival.orders.trans other.orders.symm).filterMap _
  have payments : arrival.final.payments.rows.Perm other.final.payments.rows := by
    rw [final_eq, final_eq, payments_tablesAt, payments_tablesAt, List.take_length,
      List.take_length]
    exact (arrival.payments.trans other.payments.symm).filterMap _
  exact (join_perm _ orders payments).filter _

end Arrival

/-- The metrics of a date never decrease during an arrival, never exceed their final values, and
end with the same view in every arrival order. -/
theorem partial_arrival_never_overstates (rows : LiveRows) :
    (∀ (arrival : Arrival rows) (date : Date) (count : Nat),
      dailyOrdersOn (arrival.tablesAt count) date ≤
          dailyOrdersOn (arrival.tablesAt (count + 1)) date ∧
        revenueOn (arrival.tablesAt count) date ≤ revenueOn (arrival.tablesAt (count + 1)) date ∧
        dailyOrdersOn (arrival.tablesAt count) date ≤ dailyOrdersOn arrival.final date ∧
        revenueOn (arrival.tablesAt count) date ≤ revenueOn arrival.final date) ∧
      ∀ first second : Arrival rows,
        (mvRealtimeDailyMetrics first.final).Perm (mvRealtimeDailyMetrics second.final) := by
  constructor
  · intro arrival date count
    have next : count ≤ count + 1 := Nat.le_succ count
    have settled : arrival.tablesAt (max count arrival.records.length) = arrival.final := by
      rw [Arrival.tablesAt, List.take_of_length_le (Nat.le_max_right _ _)]
      rfl
    have reached : count ≤ max count arrival.records.length := Nat.le_max_left _ _
    have finalOrders := arrival.dailyOrdersOn_mono count _ reached date
    have finalRevenue := arrival.revenueOn_mono count _ reached date
    rw [settled] at finalOrders finalRevenue
    exact ⟨arrival.dailyOrdersOn_mono count _ next date, arrival.revenueOn_mono count _ next date,
      finalOrders, finalRevenue⟩
  · intro first second
    exact mvRealtimeDailyMetrics_perm (first.final_perm second)

section Example

/-- One order is paid in two parts. -/
def paidTwice : LiveRows where
  orders := [⟨⟨some "o1", some "c1", some "shipped", some 0, none, none⟩, some false⟩]
  payments := [
    ⟨⟨some "o1", some "voucher", some 20⟩, some false⟩,
    ⟨⟨some "o1", some "boleto", some 5⟩, some false⟩]
  validOrders := by decide
  validPayments := by decide
  distinctOrders := by decide
  distinctPayments := by decide

/-- One part arrives before the order, and the other one after it. -/
def paymentFirst : Arrival paidTwice where
  records := [
    (9, .payments ⟨.insert, ⟨⟨some "o1", some "boleto", some 5⟩, some false⟩⟩),
    (4, .orders ⟨.insert,
      ⟨⟨some "o1", some "c1", some "shipped", some 0, none, none⟩, some false⟩⟩),
    (6, .payments ⟨.insert, ⟨⟨some "o1", some "voucher", some 20⟩, some false⟩⟩)]
  orders := .refl _
  payments := .swap _ _ _

theorem paidTwice_never_overstated :
    revenueOn (paymentFirst.tablesAt 2) 0 ≤ revenueOn (paymentFirst.tablesAt 3) 0 ∧
      revenueOn (paymentFirst.tablesAt 2) 0 ≤ revenueOn paymentFirst.final 0 :=
  have never := (partial_arrival_never_overstates paidTwice).1 paymentFirst 0 2
  ⟨never.2.1, never.2.2.2⟩

end Example

end OdsPipeline
