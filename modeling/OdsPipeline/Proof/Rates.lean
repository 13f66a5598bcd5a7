import Mathlib.Algebra.BigOperators.Ring.Finset
import OdsPipeline.Construction.Dashboards

namespace OdsPipeline
open Library StarRocks MaterializedViews RealtimeDashboard

section Rows

/-- The statuses that the view counts. -/
def shownStatuses : List String := ["delivered", "cancelled", "shipped", "processing"]

/-- The four counts of the view do not overlap. -/
theorem sum_statusCounts (rows : List (OdsOrders × OdsPayments)) :
    countWhen (fun row => hasStatus "delivered" row.1) rows +
        countWhen (fun row => hasStatus "cancelled" row.1) rows +
        countWhen (fun row => hasStatus "shipped" row.1) rows +
        countWhen (fun row => hasStatus "processing" row.1) rows =
      (rows.filter fun row => row.1.orderStatus ∈ shownStatuses).length := by
  have counted (status : String) : countWhen (fun row => hasStatus status row.1) rows =
      (rows.filter fun row => row.1.orderStatus = status).length := by
    simp only [countWhen, hasStatus, Truth.ofBool_eq_true_iff, decide_eq_true_eq]
  have distinct : shownStatuses.Nodup := by decide
  have total := sum_length_filter_keys (fun row => row.1.orderStatus) shownStatuses distinct rows
  rw [← total]
  simp only [counted, shownStatuses, List.map_cons, List.map_nil, List.sum_cons, List.sum_nil]
  omega

/-- Each count of a row is a part of the next one. -/
structure CountsOrdered (metrics : DailyMetrics) : Prop where
  late : metrics.lateDeliveryOrders ≤ metrics.totalDeliveredOrders
  delivered : metrics.totalDeliveredOrders ≤ metrics.dailyOrders
  statuses : metrics.deliveredOrders + metrics.cancelledOrders + metrics.shippedOrders +
    metrics.processingOrders ≤ metrics.dailyOrders

/-- A late order has both dates. -/
theorem hasBothDates_of_isLate (o : OdsOrders) (late : isLate o = .true) :
    hasBothDates o = .true := by
  unfold isLate checkBoth at late
  split at late
  · next delivered estimated =>
      rw [hasBothDates, delivered, estimated]
      rfl
  · cases late

theorem countsOrdered (tables : CleanTables) (metrics : DailyMetrics)
    (member : metrics ∈ mvRealtimeDailyMetrics tables) : CountsOrdered metrics := by
  obtain ⟨row, -, rfl⟩ := (mem_groupBy _ _ _ _).mp member
  constructor
  case late => exact countWhen_le_of_imp _ _ _ fun row _ => hasBothDates_of_isLate row.1
  case delivered => exact countWhen_le_length _ _
  case statuses =>
    apply le_of_eq_of_le (sum_statusCounts _)
    exact List.length_filter_le _ _

end Rows

section Sums

theorem sumCount_eq (count : DailyMetrics → Nat) (rows : List DailyMetrics) :
    sumCount count rows = if rows = [] then none else some ((rows.map count).sum : ℚ) := by
  have total : sumOf (fun metrics => (count metrics : ℚ)) rows = ((rows.map count).sum : ℚ) := by
    rw [sumOf, Nat.cast_list_sum, List.map_map]
    rfl
  rw [sumCount, sumColumn_some, total]

/-- Sums keep the order of the counts of each row. -/
theorem sumCount_bounded (small large : DailyMetrics → Nat) (rows : List DailyMetrics)
    (ordered : ∀ metrics ∈ rows, small metrics ≤ large metrics) (few many : ℚ)
    (part : sumCount small rows = some few) (whole : sumCount large rows = some many) :
    0 ≤ few ∧ few ≤ many := by
  rw [sumCount_eq] at part whole
  split at part
  · cases part
  · next present =>
      rw [if_neg present, Option.some.injEq] at whole
      rw [Option.some.injEq] at part
      subst part whole
      constructor
      · exact Nat.cast_nonneg _
      · exact Nat.cast_le.mpr (List.sum_le_sum ordered)

end Sums

section Rates
variable (today : Date) (tables : CleanTables)

theorem recent_countsOrdered (metrics : DailyMetrics) (member : metrics ∈ recentMetrics today tables) :
    CountsOrdered metrics :=
  countsOrdered tables metrics (List.mem_of_mem_filter member)

theorem lateDeliveryRatePercent_mem :
    ∃ rate, (lateDeliveryRate today tables).lateDeliveryRatePercent = some rate ∧
      0 ≤ rate ∧ rate ≤ 100 := by
  apply coalesce_percent_mem
  apply sumCount_bounded
  intro metrics member
  exact (recent_countsOrdered today tables metrics member).late

theorem cancellationRatePercent_mem :
    ∃ rate, (cancellationRate today tables).cancellationRatePercent = some rate ∧
      0 ≤ rate ∧ rate ≤ 100 := by
  apply coalesce_percent_mem
  apply sumCount_bounded
  intro metrics member
  have statuses := (recent_countsOrdered today tables metrics member).statuses
  omega

/-- Both rates are percentages for all tables and all dates, and no divisor is zero. -/
theorem rates_well_defined :
    (∀ metrics ∈ mvRealtimeDailyMetrics tables, CountsOrdered metrics) ∧
      (∃ rate, (lateDeliveryRate today tables).lateDeliveryRatePercent = some rate ∧
        0 ≤ rate ∧ rate ≤ 100) ∧
      (∃ rate, (cancellationRate today tables).cancellationRatePercent = some rate ∧
        0 ≤ rate ∧ rate ≤ 100) ∧
      nullIf (lateDeliveryRate today tables).totalDeliveredOrders 0 ≠ some 0 ∧
      nullIf (cancellationRate today tables).totalOrders 0 ≠ some 0 := by
  constructor
  · exact countsOrdered tables
  · exact ⟨lateDeliveryRatePercent_mem today tables, cancellationRatePercent_mem today tables,
      nullIf_ne _ _, nullIf_ne _ _⟩

end Rates

end OdsPipeline
