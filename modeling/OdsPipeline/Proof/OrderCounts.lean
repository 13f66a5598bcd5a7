import OdsPipeline.Construction.Dashboards

namespace OdsPipeline
open Library StarRocks MaterializedViews PeriodicDashboard

section Joined

/-- The live orders that have at least one live payment. -/
def paidOrders (tables : CleanTables) : List OdsOrders :=
  tables.orders.rows.filter fun o => !o.isDeleted &&
    tables.payments.rows.any fun p => !p.isDeleted && decide (o.orderId = p.orderId)

/-- The number of paid orders that pass a test. -/
def paidOrderCount (tables : CleanTables) (chosen : OdsOrders → Bool) : Nat :=
  ((paidOrders tables).filter chosen).length

/-- The live payments of an order. -/
def livePayments (tables : CleanTables) (o : OdsOrders) : List OdsPayments :=
  tables.payments.rows.filter fun p => !p.isDeleted && decide (o.orderId = p.orderId)

/-- No live order has two live payments. -/
def OnePaymentEach (tables : CleanTables) : Prop :=
  ∀ o ∈ tables.orders.rows, o.isDeleted = false → (livePayments tables o).length ≤ 1

instance (tables : CleanTables) : Decidable (OnePaymentEach tables) :=
  inferInstanceAs (Decidable (∀ o ∈ tables.orders.rows, _))

/-- The joined rows of the orders that pass a test. -/
def joinedRows (tables : CleanTables) (chosen : OdsOrders → Bool) : List (OdsOrders × OdsPayments) :=
  (ordersWithPayments tables).filter fun row => chosen row.1

theorem joinedRows_eq (tables : CleanTables) (chosen : OdsOrders → Bool) :
    joinedRows tables chosen =
      join ((tables.orders.rows.filter fun o => !o.isDeleted).filter chosen)
        (tables.payments.rows.filter fun p => !p.isDeleted) fun o p => o.orderId = p.orderId := by
  have live := filter_join tables.orders.rows tables.payments.rows
    (fun o p => o.orderId = p.orderId) (fun o => !o.isDeleted) fun p => !p.isDeleted
  rw [joinedRows, ordersWithPayments, live, filter_join_left]

theorem paidOrders_eq (tables : CleanTables) :
    paidOrders tables = tables.orders.rows.filter fun o => !o.isDeleted &&
      (tables.payments.rows.filter fun p => !p.isDeleted).any fun p => o.orderId = p.orderId := by
  simp only [paidOrders, List.any_filter]

theorem livePayments_eq (tables : CleanTables) (o : OdsOrders) :
    livePayments tables o =
      (tables.payments.rows.filter fun p => !p.isDeleted).filter fun p => o.orderId = p.orderId := by
  simp only [livePayments, List.filter_filter, Bool.and_comm]

/-- The joined rows count the chosen paid orders exactly when each has one live payment. -/
theorem length_joinedRows_eq_iff (tables : CleanTables) (chosen : OdsOrders → Bool) :
    (joinedRows tables chosen).length = paidOrderCount tables chosen ↔
      ∀ o ∈ tables.orders.rows, o.isDeleted = false → chosen o = true →
        (livePayments tables o).length ≤ 1 := by
  rw [joinedRows_eq, paidOrderCount, paidOrders_eq, length_join_filtered_eq_iff]
  simp only [livePayments_eq, Bool.not_eq_true']

/-- Each paid order stands in some joined row. -/
theorem exists_joined_of_paid (tables : CleanTables) (o : OdsOrders)
    (paid : o ∈ paidOrders tables) : ∃ row ∈ ordersWithPayments tables, row.1 = o := by
  obtain ⟨member, holds⟩ := List.mem_filter.mp paid
  rw [Bool.and_eq_true, List.any_eq_true] at holds
  obtain ⟨live, p, stored, matching⟩ := holds
  rw [Bool.and_eq_true] at matching
  refine ⟨(o, p), ?_, rfl⟩
  rw [ordersWithPayments, List.mem_filter, mem_join]
  exact ⟨⟨member, stored, matching.2⟩, by rw [live, matching.1]; rfl⟩

theorem exists_paid_of_count (tables : CleanTables) (chosen : OdsOrders → Bool)
    (counted : paidOrderCount tables chosen ≠ 0) : ∃ o ∈ paidOrders tables, chosen o = true := by
  obtain ⟨o, member⟩ := List.exists_mem_of_length_pos (Nat.pos_of_ne_zero counted)
  exact ⟨o, List.mem_filter.mp member⟩

/-- A live order with a live payment is paid. -/
theorem paid_of_livePayment (tables : CleanTables) (o : OdsOrders)
    (member : o ∈ tables.orders.rows) (live : o.isDeleted = false)
    (payment : livePayments tables o ≠ []) : o ∈ paidOrders tables := by
  obtain ⟨p, inside⟩ := List.exists_mem_of_ne_nil _ payment
  obtain ⟨stored, holds⟩ := List.mem_filter.mp inside
  refine List.mem_filter.mpr ⟨member, ?_⟩
  rw [live, Bool.not_false, Bool.true_and, List.any_eq_true]
  exact ⟨p, stored, holds⟩

end Joined

section Views

def purchasedOn (date : Date) (o : OdsOrders) : Bool := o.orderPurchaseTimestamp.date = date

/-- The number of paid orders of a date that meet a condition. -/
def paidOn (tables : CleanTables) (date : Date) (condition : OdsOrders → Truth) : Nat :=
  paidOrderCount tables fun o => decide (condition o = .true) && purchasedOn date o

/-- Each count of a row is the number of paid orders of its date with the condition. -/
structure DailyCountsExact (tables : CleanTables) (metrics : DailyMetrics) : Prop where
  daily : metrics.dailyOrders = paidOrderCount tables (purchasedOn metrics.orderDate)
  delivered : metrics.deliveredOrders = paidOn tables metrics.orderDate (hasStatus "delivered")
  cancelled : metrics.cancelledOrders = paidOn tables metrics.orderDate (hasStatus "cancelled")
  shipped : metrics.shippedOrders = paidOn tables metrics.orderDate (hasStatus "shipped")
  processing : metrics.processingOrders = paidOn tables metrics.orderDate (hasStatus "processing")
  late : metrics.lateDeliveryOrders = paidOn tables metrics.orderDate isLate
  totalDelivered : metrics.totalDeliveredOrders = paidOn tables metrics.orderDate hasBothDates

/-- Each order count of the views and of the weekday query counts distinct paid orders, and no
group with a paid order is missing. -/
structure OrderCountsExact (tables : CleanTables) : Prop where
  daily : ∀ metrics ∈ mvRealtimeDailyMetrics tables, DailyCountsExact tables metrics
  dailyCovered : ∀ date, paidOrderCount tables (purchasedOn date) ≠ 0 →
    ∃ metrics ∈ mvRealtimeDailyMetrics tables, metrics.orderDate = date
  lifetime : ∀ row ∈ mvCustomerLifetimeAnalysis tables,
    row.totalOrders = paidOrderCount tables fun o => o.customerId = row.customerId
  lifetimeCovered : ∀ customer, (paidOrderCount tables fun o => o.customerId = customer) ≠ 0 →
    ∃ row ∈ mvCustomerLifetimeAnalysis tables, row.customerId = customer
  weekdays : ∀ row ∈ ordersByWeekday tables,
    row.totalOrders = paidOrderCount tables fun o => weekday o = row.dayOfWeek
  weekdaysCovered : ∀ day, (paidOrderCount tables fun o => weekday o = day) ≠ 0 →
    ∃ row ∈ ordersByWeekday tables, row.dayOfWeek = day

/-- A view row counts the joined rows of its date. -/
theorem dailyMetrics_counts (tables : CleanTables) (metrics : DailyMetrics)
    (member : metrics ∈ mvRealtimeDailyMetrics tables) :
    metrics.dailyOrders = (joinedRows tables (purchasedOn metrics.orderDate)).length := by
  obtain ⟨row, -, rfl⟩ := (mem_groupBy _ _ _ _).mp member
  rfl

/-- A conditional count of a group counts the joined rows with the condition. -/
theorem countWhen_joined (tables : CleanTables) (date : Date) (condition : OdsOrders → Truth) :
    countWhen (fun row : OdsOrders × OdsPayments => condition row.1)
        (joinedRows tables (purchasedOn date)) =
      (joinedRows tables fun o => decide (condition o = .true) && purchasedOn date o).length := by
  rw [countWhen, joinedRows, List.filter_filter]
  rfl

theorem dailyCountsExact_of_one (tables : CleanTables) (single : OnePaymentEach tables)
    (metrics : DailyMetrics) (member : metrics ∈ mvRealtimeDailyMetrics tables) :
    DailyCountsExact tables metrics := by
  have equal (chosen : OdsOrders → Bool) :
      (joinedRows tables chosen).length = paidOrderCount tables chosen :=
    (length_joinedRows_eq_iff tables chosen).mpr fun o stored live _ => single o stored live
  have counted (date : Date) (condition : OdsOrders → Truth) :
      countWhen (fun row : OdsOrders × OdsPayments => condition row.1)
        (joinedRows tables (purchasedOn date)) = paidOn tables date condition := by
    rw [countWhen_joined, equal, paidOn]
  obtain ⟨row, -, rfl⟩ := (mem_groupBy _ _ _ _).mp member
  exact {
    daily := equal (purchasedOn _)
    delivered := counted _ (hasStatus "delivered")
    cancelled := counted _ (hasStatus "cancelled")
    shipped := counted _ (hasStatus "shipped")
    processing := counted _ (hasStatus "processing")
    late := counted _ isLate
    totalDelivered := counted _ hasBothDates }

theorem lifetime_totalOrders (tables : CleanTables) (row : CustomerLifetime)
    (member : row ∈ mvCustomerLifetimeAnalysis tables) :
    row.totalOrders = (joinedRows tables fun o => o.customerId = row.customerId).length := by
  obtain ⟨first, -, rfl⟩ := (mem_groupBy _ _ _ _).mp member
  rfl

/-- A weekday decides its name. -/
theorem named_weekday_iff (day other : Int) :
    (other, dayName other) = (day, dayName day) ↔ other = day := by
  constructor
  · intro same
    exact congrArg Prod.fst same
  · rintro rfl
    rfl

/-- The weekday query adds the rows of all payment types again. -/
theorem weekday_totalOrders (tables : CleanTables) (row : WeekdayTotal)
    (member : row ∈ ordersByWeekday tables) :
    row.totalOrders = (joinedRows tables fun o => weekday o = row.dayOfWeek).length := by
  rw [ordersByWeekday, List.mem_mergeSort] at member
  obtain ⟨pattern, inView, rfl⟩ := (mem_groupBy _ _ _ _).mp member
  have named : pattern.dayName = dayName pattern.dayOfWeek := by
    obtain ⟨first, -, rfl⟩ := (mem_groupBy _ _ _ _).mp inView
    rfl
  change (((mvBusinessPatterns tables).filter fun other =>
    (other.dayOfWeek, other.dayName) = (pattern.dayOfWeek, pattern.dayName)).map
      BusinessPattern.orderCount).sum = _
  rw [mvBusinessPatterns, sum_groupBy _ _ _ (fun _ => 1) _ fun row => weekday row.1 = pattern.dayOfWeek]
  · rw [sum_map_one, joinedRows]
  · intro group rows
    rw [sum_map_one]
  · intro first inside
    rw [named]
    exact decide_eq_decide.mpr (named_weekday_iff _ _)

/-- The date of a paid order has a row in the daily view. -/
theorem exists_dailyMetrics (tables : CleanTables) (o : OdsOrders) (paid : o ∈ paidOrders tables) :
    ∃ metrics ∈ mvRealtimeDailyMetrics tables, purchasedOn metrics.orderDate o = true := by
  obtain ⟨row, joined, rfl⟩ := exists_joined_of_paid tables o paid
  exact ⟨_, (mem_groupBy _ _ _ _).mpr ⟨row, joined, rfl⟩, decide_eq_true rfl⟩

theorem orderCountsExact_of_one (tables : CleanTables) (single : OnePaymentEach tables) :
    OrderCountsExact tables := by
  have equal (chosen : OdsOrders → Bool) :
      (joinedRows tables chosen).length = paidOrderCount tables chosen :=
    (length_joinedRows_eq_iff tables chosen).mpr fun o stored live _ => single o stored live
  constructor
  case daily => exact dailyCountsExact_of_one tables single
  case dailyCovered =>
    intro date counted
    obtain ⟨o, paid, chosen⟩ := exists_paid_of_count tables _ counted
    obtain ⟨metrics, member, purchased⟩ := exists_dailyMetrics tables o paid
    exact ⟨metrics, member, (of_decide_eq_true purchased).symm.trans (of_decide_eq_true chosen)⟩
  case lifetime =>
    intro row member
    rw [lifetime_totalOrders tables row member, equal]
  case lifetimeCovered =>
    intro customer counted
    obtain ⟨o, paid, chosen⟩ := exists_paid_of_count tables _ counted
    obtain ⟨row, joined, rfl⟩ := exists_joined_of_paid tables o paid
    exact ⟨_, (mem_groupBy _ _ _ _).mpr ⟨row, joined, rfl⟩, of_decide_eq_true chosen⟩
  case weekdays =>
    intro row member
    rw [weekday_totalOrders tables row member, equal]
  case weekdaysCovered =>
    intro day counted
    obtain ⟨o, paid, chosen⟩ := exists_paid_of_count tables _ counted
    obtain ⟨row, joined, rfl⟩ := exists_joined_of_paid tables o paid
    refine ⟨_, List.mem_mergeSort.mpr ((mem_groupBy _ _ _ _).mpr
      ⟨_, (mem_groupBy _ _ _ _).mpr ⟨row, joined, rfl⟩, rfl⟩), of_decide_eq_true chosen⟩

theorem onePaymentEach_of_exact (tables : CleanTables) (right : OrderCountsExact tables) :
    OnePaymentEach tables := by
  intro o stored live
  by_cases payment : livePayments tables o = []
  · rw [payment]
    exact Nat.zero_le _
  · have paid := paid_of_livePayment tables o stored live payment
    obtain ⟨metrics, member, purchased⟩ := exists_dailyMetrics tables o paid
    have daily := (right.daily metrics member).daily
    rw [dailyMetrics_counts tables metrics member, length_joinedRows_eq_iff] at daily
    exact daily o stored live purchased

/-- The order counts are right exactly when no live order has two live payments. -/
theorem order_counts_exact_iff (tables : CleanTables) :
    OrderCountsExact tables ↔ OnePaymentEach tables :=
  ⟨onePaymentEach_of_exact tables, orderCountsExact_of_one tables⟩

/-- One order is paid by card and by voucher. -/
def splitPayment : CleanTables where
  orders := oneDelivered
  orderItems := KeyedTable.empty _
  products := KeyedTable.empty _
  payments := ⟨[⟨"o1", "credit_card", 60, false⟩, ⟨"o1", "voucher", 40, false⟩], by decide⟩

/-- The daily view counts the order twice. -/
theorem split_payment_counted_twice :
    (mvRealtimeDailyMetrics splitPayment).map DailyMetrics.dailyOrders = [2] ∧
      ¬ OrderCountsExact splitPayment :=
  ⟨by decide, fun right => absurd (onePaymentEach_of_exact splitPayment right) (by decide)⟩

end Views

end OdsPipeline
