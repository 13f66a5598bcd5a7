import OdsPipeline.Construction.DataQuality
import OdsPipeline.Proof.Arrival
import OdsPipeline.Proof.Rates

namespace OdsPipeline
open Library SqlQueries StarRocks MaterializedViews RealtimeDashboard DataQualityDashboard

section Errors

/-- The second state holds each live error row of the first state. -/
structure AddsErrors (first second : ErrorTables) : Prop where
  orders : liveErrors first.orders.rows ⊆ liveErrors second.orders.rows
  orderItems : liveErrors first.orderItems.rows ⊆ liveErrors second.orderItems.rows
  products : liveErrors first.products.rows ⊆ liveErrors second.products.rows
  reviews : liveErrors first.reviews.rows ⊆ liveErrors second.reviews.rows
  payments : liveErrors first.payments.rows ⊆ liveErrors second.payments.rows
  customers : liveErrors first.customers.rows ⊆ liveErrors second.customers.rows

variable (now : Timestamp)

/-- The errors that the six summaries count for the last 24 hours. -/
def recentErrors (errors : ErrorTables) : Nat :=
  ((allSummaries now errors).map ErrorSummary.errors24h).sum

/-- The six summaries count the recent live rows of their tables. -/
theorem recentErrors_eq_add (errors : ErrorTables) : recentErrors now errors =
    countWhen (inLastHours 24 now) (liveErrors errors.orders.rows) +
      countWhen (inLastHours 24 now) (liveErrors errors.orderItems.rows) +
      countWhen (inLastHours 24 now) (liveErrors errors.products.rows) +
      countWhen (inLastHours 24 now) (liveErrors errors.reviews.rows) +
      countWhen (inLastHours 24 now) (liveErrors errors.payments.rows) +
      countWhen (inLastHours 24 now) (liveErrors errors.customers.rows) := by
  simp only [recentErrors, allSummaries, List.map_cons, List.map_nil, List.sum_cons, List.sum_nil,
    mvOrdersErrorSummary, mvOrderItemsErrorSummary, mvProductsErrorSummary, mvReviewsErrorSummary,
    mvPaymentsErrorSummary, mvCustomersErrorSummary, errorSummary]
  omega

/-- The times of all live error rows. -/
def liveErrorTimes (errors : ErrorTables) : List Timestamp :=
  (liveErrors errors.orders.rows).map ErrorSink.errorTimestamp ++
    (liveErrors errors.orderItems.rows).map ErrorSink.errorTimestamp ++
    (liveErrors errors.products.rows).map ErrorSink.errorTimestamp ++
    (liveErrors errors.reviews.rows).map ErrorSink.errorTimestamp ++
    (liveErrors errors.payments.rows).map ErrorSink.errorTimestamp ++
    (liveErrors errors.customers.rows).map ErrorSink.errorTimestamp

theorem recentErrors_eq (errors : ErrorTables) : recentErrors now errors =
    ((liveErrorTimes errors).filter fun time => now - 24 * hourMillis ≤ time).length := by
  have counted {Columns : Type} (rows : List (ErrorSink Columns)) :
      countWhen (inLastHours 24 now) rows =
        ((rows.map ErrorSink.errorTimestamp).filter fun time =>
          now - 24 * hourMillis ≤ time).length := by
    rw [List.filter_map, List.length_map, countWhen]
    congr 1
    apply List.filter_congr
    intro row _
    simp only [inLastHours, Truth.ofBool_eq_true_iff, decide_eq_true_eq]
    rfl
  simp only [recentErrors_eq_add, liveErrorTimes, List.filter_append, List.length_append, counted]

/-- A larger set of live rows has at least as many recent rows. -/
theorem errors24h_mono {Columns : Type} (first second : List (ErrorSink Columns))
    (distinct : first.Nodup) (larger : liveErrors first ⊆ liveErrors second) :
    countWhen (inLastHours 24 now) (liveErrors first) ≤
      countWhen (inLastHours 24 now) (liveErrors second) := by
  have part : (liveErrors first).Subperm (liveErrors second) :=
    List.subperm_of_subset (distinct.filter _) larger
  exact (part.filter _).length_le

theorem recentErrors_mono (first second : ErrorTables) (larger : AddsErrors first second) :
    recentErrors now first ≤ recentErrors now second := by
  have orders := errors24h_mono now _ _ first.orders.nodup_rows larger.orders
  have orderItems := errors24h_mono now _ _ first.orderItems.nodup_rows larger.orderItems
  have products := errors24h_mono now _ _ first.products.nodup_rows larger.products
  have reviews := errors24h_mono now _ _ first.reviews.nodup_rows larger.reviews
  have payments := errors24h_mono now _ _ first.payments.nodup_rows larger.payments
  have customers := errors24h_mono now _ _ first.customers.nodup_rows larger.customers
  rw [recentErrors_eq_add, recentErrors_eq_add]
  omega

end Errors

section Rate
variable (now : Timestamp) (clean : CleanTables) (errors : ErrorTables)

/-- SUM(daily_orders) is NULL when no order of today is counted. -/
theorem cleanRecords_eq : (successRate now clean errors).cleanRecords =
    if dailyOrdersOn clean now.date = 0 then none else some (dailyOrdersOn clean now.date : ℚ) := by
  have today : (mvRealtimeDailyMetrics clean).filter (fun metrics => metrics.orderDate = now.date) =
      groupBy _ _ (joinedRows clean (purchasedOn now.date)) :=
    filter_groupBy _ _ _ (fun row : OdsOrders × OdsPayments => purchasedOn now.date row.1) _
      fun _ _ => rfl
  have total : (((mvRealtimeDailyMetrics clean).filter fun metrics =>
      metrics.orderDate = now.date).map DailyMetrics.dailyOrders).sum =
        (joinedRows clean (purchasedOn now.date)).length := by
    rw [today]
    exact sum_groupBy_sizes _ _ DailyMetrics.dailyOrders (fun _ _ => rfl) _
  have none : (mvRealtimeDailyMetrics clean).filter (fun metrics => metrics.orderDate = now.date) = [] ↔
      dailyOrdersOn clean now.date = 0 := by
    rw [today, groupBy_eq_nil_iff, dailyOrdersOn_eq, List.length_eq_zero_iff]
  change sumCount DailyMetrics.dailyOrders _ = _
  rw [sumCount_eq, total, ← dailyOrdersOn_eq]
  exact if_congr none rfl rfl

/-- The six summaries always have a row, so their sum is a number. -/
theorem errorRecords_eq : (successRate now clean errors).errorRecords =
    some (recentErrors now errors : ℚ) := by
  have total : sumOf (fun summary : ErrorSummary => (summary.errors24h : ℚ)) (allSummaries now errors) =
      (recentErrors now errors : ℚ) := by
    rw [sumOf, recentErrors, Nat.cast_list_sum, List.map_map]
    rfl
  change sumColumn (fun summary : ErrorSummary => some (summary.errors24h : ℚ))
    (allSummaries now errors) = _
  rw [sumColumn_some, total, allSummaries, if_neg (List.cons_ne_nil _ _)]

/-- Without a counted order of today the rate is NULL. -/
theorem successRate_none (idle : dailyOrdersOn clean now.date = 0) :
    (successRate now clean errors).successRatePercentage = none := by
  have cleanRecords := cleanRecords_eq now clean errors
  rw [if_pos idle] at cleanRecords
  change (percentOf (successRate now clean errors).cleanRecords _).map _ = none
  rw [cleanRecords]
  rfl

/-- With a counted order of today the rate is the rounded share of the clean records. -/
theorem successRate_some (busy : dailyOrdersOn clean now.date ≠ 0) :
    (successRate now clean errors).successRatePercentage =
      some (roundTo 2 (dailyOrdersOn clean now.date * 100 /
        (dailyOrdersOn clean now.date + recentErrors now errors))) := by
  have cleanRecords := cleanRecords_eq now clean errors
  rw [if_neg busy] at cleanRecords
  change (percentOf (successRate now clean errors).cleanRecords (nullIf (plus
    (successRate now clean errors).cleanRecords (successRate now clean errors).errorRecords) 0)).map
      (roundTo 2) = _
  rw [cleanRecords, errorRecords_eq, percentOf_plus]
  · rfl
  · exact Nat.cast_pos.mpr (Nat.pos_of_ne_zero busy)
  · exact Nat.cast_nonneg _

/-- The rate is a percentage whenever an order or an error is counted, it is zero when there are
only errors, and more live error rows do not increase it. -/
def RateDefined : Prop :=
  dailyOrdersOn clean now.date ≠ 0 ∨ recentErrors now errors ≠ 0 →
    ∃ rate, (successRate now clean errors).successRatePercentage = some rate ∧
      0 ≤ rate ∧ rate ≤ 100 ∧
      (dailyOrdersOn clean now.date = 0 → recentErrors now errors ≠ 0 → rate = 0) ∧
      ∀ more, AddsErrors errors more →
        ∃ lower, (successRate now clean more).successRatePercentage = some lower ∧ lower ≤ rate

theorem rateDefined_of_busy (busy : dailyOrdersOn clean now.date ≠ 0) :
    RateDefined now clean errors := by
  have positive : (0 : ℚ) < dailyOrdersOn clean now.date := Nat.cast_pos.mpr (Nat.pos_of_ne_zero busy)
  have nonneg : (0 : ℚ) ≤ recentErrors now errors := Nat.cast_nonneg _
  have part : (dailyOrdersOn clean now.date : ℚ) ≤
      dailyOrdersOn clean now.date + recentErrors now errors := by linarith
  have percent := percent_mem positive.le part
  have rounded := roundTo_mem_percent 2 percent.1 percent.2
  intro counted
  refine ⟨_, successRate_some now clean errors busy, rounded.1, rounded.2, ?_, ?_⟩
  · intro idle
    exact absurd idle busy
  · intro more larger
    have order : (recentErrors now errors : ℚ) ≤ recentErrors now more :=
      Nat.cast_le.mpr (recentErrors_mono now errors more larger)
    refine ⟨_, successRate_some now clean more busy, roundTo_le_roundTo 2 ?_ ?_⟩
    · positivity
    · exact percent_le_percent positive nonneg order

theorem rateDefined_iff : RateDefined now clean errors ↔
    (dailyOrdersOn clean now.date = 0 → recentErrors now errors = 0) := by
  constructor
  · intro defined idle
    by_contra failed
    obtain ⟨rate, known, -⟩ := defined (Or.inr failed)
    rw [successRate_none now clean errors idle] at known
    cases known
  · intro quiet
    by_cases idle : dailyOrdersOn clean now.date = 0
    · intro counted
      exact absurd counted (by simp [idle, quiet idle])
    · exact rateDefined_of_busy now clean errors idle

/-- The rate is defined exactly when a live paid order of today exists or no live error row lies in
the last 24 hours. -/
theorem success_rate_defined_iff : RateDefined now clean errors ↔
    (∃ row ∈ ordersWithPayments clean, row.1.orderPurchaseTimestamp.date = now.date) ∨
      ∀ time ∈ liveErrorTimes errors, time < now - 24 * hourMillis := by
  have idle : dailyOrdersOn clean now.date = 0 ↔
      ¬ ∃ row ∈ ordersWithPayments clean, row.1.orderPurchaseTimestamp.date = now.date := by
    rw [dailyOrdersOn_eq, List.length_eq_zero_iff, joinedRows, List.filter_eq_nil_iff]
    simp only [purchasedOn, decide_eq_true_eq, not_exists, not_and]
  have quiet : recentErrors now errors = 0 ↔
      ∀ time ∈ liveErrorTimes errors, time < now - 24 * hourMillis := by
    rw [recentErrors_eq, List.length_eq_zero_iff, List.filter_eq_nil_iff]
    simp only [decide_eq_true_eq, not_le]
  rw [rateDefined_iff, idle, quiet, ← or_iff_not_imp_left]

end Rate

section Idle

/-- No order has arrived yet. -/
def noOrders : CleanTables where
  orders := KeyedTable.empty _
  orderItems := KeyedTable.empty _
  products := KeyedTable.empty _
  payments := KeyedTable.empty _

/-- One order without a customer was rejected. -/
def rejectedOrder : ErrorTables where
  orders := ⟨[errorRow 0 ⟨some "o1", none, some "shipped", some 0, none, none⟩ "Invalid customer ID"
    (rawData "order_id" (some "o1"))], by decide⟩
  orderItems := KeyedTable.empty _
  products := KeyedTable.empty _
  reviews := KeyedTable.empty _
  payments := KeyedTable.empty _
  customers := KeyedTable.empty _

/-- The rate of the rejected order is NULL and not zero. -/
theorem rejected_order_unrated :
    recentErrors 0 rejectedOrder = 1 ∧
      (successRate 0 noOrders rejectedOrder).successRatePercentage = none ∧
      ¬ RateDefined 0 noOrders rejectedOrder := by
  have counted : recentErrors 0 rejectedOrder = 1 := by decide
  have idle : dailyOrdersOn noOrders (Timestamp.date 0) = 0 := by decide
  have unknown := successRate_none 0 noOrders rejectedOrder idle
  refine ⟨counted, unknown, ?_⟩
  intro defined
  have quiet := (rateDefined_iff 0 noOrders rejectedOrder).mp defined idle
  rw [counted] at quiet
  cases quiet

end Idle

end OdsPipeline
