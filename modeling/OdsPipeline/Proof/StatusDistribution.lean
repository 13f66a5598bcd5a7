import OdsPipeline.Proof.OrderCounts
import OdsPipeline.Proof.Rates
import OdsPipeline.Proof.ValidTables

namespace OdsPipeline
open Library StarRocks MaterializedViews RealtimeDashboard

section Window
variable (today : Date) (tables : CleanTables)

/-- The joined rows of the orders in the window of the dashboard. -/
def windowRows : List (OdsOrders × OdsPayments) :=
  joinedRows tables fun o => inLastWeek today o.orderPurchaseTimestamp.date

/-- The orders of a view row that some slice shows. -/
def shownOrders (metrics : DailyMetrics) : Nat :=
  metrics.deliveredOrders + metrics.cancelledOrders + metrics.shippedOrders + metrics.processingOrders

/-- The recent rows of the view count each joined row of the window once. -/
theorem sum_recent_daily : ((recentMetrics today tables).map DailyMetrics.dailyOrders).sum =
    (windowRows today tables).length := by
  rw [recentMetrics, mvRealtimeDailyMetrics, filter_groupBy _ _ _
    fun row => inLastWeek today row.1.orderPurchaseTimestamp.date]
  · exact sum_groupBy_sizes _ _ DailyMetrics.dailyOrders (fun _ _ => rfl) _
  · intro row _
    rfl

theorem sum_recent_shown : ((recentMetrics today tables).map shownOrders).sum =
    ((windowRows today tables).filter fun row => row.1.orderStatus ∈ shownStatuses).length := by
  rw [recentMetrics, mvRealtimeDailyMetrics, filter_groupBy _ _ _
    fun row => inLastWeek today row.1.orderPurchaseTimestamp.date]
  · rw [sum_groupBy_counts _ _ shownOrders fun row => .ofBool (row.1.orderStatus ∈ shownStatuses)]
    · simp only [countWhen, Truth.ofBool_eq_true_iff, decide_eq_true_eq]
      rfl
    · intro group rows
      simp only [countWhen, Truth.ofBool_eq_true_iff, decide_eq_true_eq]
      exact sum_statusCounts rows
  · intro row _
    rfl

/-- The order counts of the slices add up to SUM(daily_orders) of the window. -/
def SlicesCover : Prop :=
  sumColumn StatusSlice.orderCount (orderStatusDistribution today tables) =
    sumCount DailyMetrics.dailyOrders (recentMetrics today tables)

theorem sum_slices : sumColumn StatusSlice.orderCount (orderStatusDistribution today tables) =
    sumCount shownOrders (recentMetrics today tables) := by
  have listed := List.mergeSort_perm
    [statusSlice "delivered" DailyMetrics.deliveredOrders (recentMetrics today tables),
     statusSlice "cancelled" DailyMetrics.cancelledOrders (recentMetrics today tables),
     statusSlice "shipped" DailyMetrics.shippedOrders (recentMetrics today tables),
     statusSlice "processing" DailyMetrics.processingOrders (recentMetrics today tables)]
    fun first second => sortKey second.orderCount ≤ sortKey first.orderCount
  rw [orderStatusDistribution, orderByDesc, sumColumn_perm _ listed]
  simp only [sumColumn, statusSlice, List.filterMap_cons, List.filterMap_nil, sumCount_eq]
  by_cases empty : recentMetrics today tables = []
  · simp [empty]
  · have split : ((recentMetrics today tables).map shownOrders).sum =
        ((recentMetrics today tables).map DailyMetrics.deliveredOrders).sum +
          ((recentMetrics today tables).map DailyMetrics.cancelledOrders).sum +
          ((recentMetrics today tables).map DailyMetrics.shippedOrders).sum +
          ((recentMetrics today tables).map DailyMetrics.processingOrders).sum := by
      simp only [← List.sum_map_add]
      rfl
    simp only [empty, if_false, List.sum_cons, List.sum_nil, split]
    push_cast
    congr 1
    ring

/-- The slices cover the window exactly when each order in it has a shown status. -/
theorem slicesCover_iff_shown : SlicesCover today tables ↔
    ∀ row ∈ windowRows today tables, row.1.orderStatus ∈ shownStatuses := by
  have shown := sum_recent_shown today tables
  have daily := sum_recent_daily today tables
  have counts : (recentMetrics today tables = [] → windowRows today tables = []) := by
    intro empty
    rw [empty] at daily
    exact List.length_eq_zero_iff.mp daily.symm
  rw [SlicesCover, sum_slices, sumCount_eq, sumCount_eq, shown, daily]
  by_cases empty : recentMetrics today tables = []
  · simp [empty, counts empty]
  · rw [if_neg empty, if_neg empty, Option.some.injEq, Nat.cast_inj,
      List.length_filter_eq_length_iff]
    simp only [decide_eq_true_eq]

/-- An accepted status is shown exactly when it is not the pending status. -/
theorem shown_iff_not_pending (status : String) (valid : status ∈ OrderProcessor.validStatuses) :
    status ∈ shownStatuses ↔ status ≠ "pending" := by
  revert status
  decide

/-- The status distribution covers the window exactly when no counted order in it is pending. -/
theorem slices_cover_iff_none_pending (valid : StatusesValid tables) :
    SlicesCover today tables ↔
      ∀ row ∈ ordersWithPayments tables,
        inLastWeek today row.1.orderPurchaseTimestamp.date = true →
          row.1.orderStatus ≠ "pending" := by
  have accepted (row : OdsOrders × OdsPayments) (joined : row ∈ ordersWithPayments tables) :
      row.1.orderStatus ∈ OrderProcessor.validStatuses := by
    have pair := (mem_join _ _ _ _).mp (List.mem_of_mem_filter joined)
    exact valid row.1 pair.1
  rw [slicesCover_iff_shown]
  constructor
  · intro shown row joined recent
    have inside : row ∈ windowRows today tables := List.mem_filter.mpr ⟨joined, recent⟩
    exact (shown_iff_not_pending _ (accepted row joined)).mp (shown row inside)
  · intro unpending row inside
    obtain ⟨joined, recent⟩ := List.mem_filter.mp inside
    exact (shown_iff_not_pending _ (accepted row joined)).mpr (unpending row joined recent)

end Window

/-- One paid order waits for its processing. -/
def pendingOrder : CleanTables where
  orders := ⟨[⟨"o1", "c1", "pending", 0, none, none, false⟩], by decide⟩
  orderItems := KeyedTable.empty _
  products := KeyedTable.empty _
  payments := ⟨[⟨"o1", "boleto", 60, false⟩], by decide⟩

theorem slices_cover_iff_on_pendingOrder :
    StatusesValid pendingOrder ∧ (SlicesCover 0 pendingOrder ↔
      ∀ row ∈ ordersWithPayments pendingOrder,
        inLastWeek 0 row.1.orderPurchaseTimestamp.date = true → row.1.orderStatus ≠ "pending") := by
  have valid : StatusesValid pendingOrder := by decide
  exact ⟨valid, slices_cover_iff_none_pending 0 pendingOrder valid⟩

/-- The pending order is counted and stands in no slice. -/
theorem pending_order_uncovered :
    StatusesValid pendingOrder ∧ (windowRows 0 pendingOrder).length = 1 ∧
      ¬ SlicesCover 0 pendingOrder := by
  have missing : ¬ ∀ row ∈ windowRows 0 pendingOrder, row.1.orderStatus ∈ shownStatuses := by decide
  constructor
  · decide
  · exact ⟨by decide, fun covered => missing ((slicesCover_iff_shown 0 pendingOrder).mp covered)⟩

end OdsPipeline
