import OdsPipeline.Construction.MaterializedViews
import OdsPipeline.Construction.OrderProcessor

namespace OdsPipeline
open Library SqlQueries StarRocks MaterializedViews

section Days

/-- A truncated quotient is positive from one whole unit on. -/
theorem tdiv_pos_iff (value unit : Int) (positive : 0 < unit) : 0 < value.tdiv unit ↔ unit ≤ value := by
  rcases Int.le_total 0 value with nonneg | nonpos
  · have whole : 1 ≤ value / unit ↔ 1 * unit ≤ value := Int.le_ediv_iff_mul_le positive
    rw [Int.tdiv_eq_ediv_of_nonneg nonneg]
    omega
  · have mirrored : 0 ≤ (-value).tdiv unit := Int.tdiv_nonneg (by omega) positive.le
    rw [Int.neg_tdiv] at mirrored
    omega

theorem timestampDiffDay_pos_iff (start stop : Timestamp) :
    0 < timestampDiffDay start stop ↔ start + dayMillis ≤ stop := by
  have day : (0 : Int) < dayMillis := by decide
  rw [timestampDiffDay, tdiv_pos_iff _ _ day]
  exact le_sub_iff_add_le'

end Days

section Orders

/-- The stored delay is a positive number of days. -/
def PositiveDelay (data : OrdersData) : Prop :=
  ∃ delay, data.deliveryDelayDays = some delay ∧ 0 < delay

/-- The order was delivered late, and less than one day late. -/
def LateWithinDay (o : OdsOrders) : Prop :=
  ∃ delivered estimated, o.orderDeliveredCustomerDate = some delivered ∧
    o.orderEstimatedDeliveryDate = some estimated ∧ estimated < delivered ∧
      delivered < estimated + dayMillis

/-- A comparison with NULL does not count. -/
theorem isLate_iff (o : OdsOrders) : isLate o = .true ↔
    ∃ delivered estimated, o.orderDeliveredCustomerDate = some delivered ∧
      o.orderEstimatedDeliveryDate = some estimated ∧ estimated < delivered := by
  unfold isLate
  cases o.orderDeliveredCustomerDate with
  | none => simp [checkBoth]
  | some delivered =>
      cases o.orderEstimatedDeliveryDate with
      | none => simp [checkBoth]
      | some estimated => simp [checkBoth, Truth.ofBool_eq_true_iff]

/-- A delay is positive exactly when the delivery is late by a day or more. -/
theorem positiveDelay_iff (row : OrdersSource) : PositiveDelay (OrderProcessor.cleanSelect row) ↔
    ∃ delivered estimated, row.orderDeliveredCustomerDate = some delivered ∧
      row.orderEstimatedDeliveryDate = some estimated ∧ estimated + dayMillis ≤ delivered := by
  change (∃ delay, OrderProcessor.deliveryDelayDays row.toOrdersColumns = some delay ∧ 0 < delay) ↔ _
  unfold OrderProcessor.deliveryDelayDays
  cases row.orderDeliveredCustomerDate with
  | none => simp [caseWhen, isNotNull, Truth.ofBool, Truth.and]
  | some delivered =>
      cases row.orderEstimatedDeliveryDate with
      | none => simp [caseWhen, isNotNull, Truth.ofBool, Truth.and]
      | some estimated =>
          simp [caseWhen, isNotNull, Truth.ofBool, Truth.and, timestampDiffDay_pos_iff]

/-- The view counts an order as late when its delay is positive, and also when it is late by less
than one day. -/
theorem late_iff_delay_or_within_day (row : OrdersSource) (o : OdsOrders)
    (stored : OdsOrders.ofData (OrderProcessor.cleanSelect row) = some o) :
    (isLate o = .true ↔ PositiveDelay (OrderProcessor.cleanSelect row) ∨ LateWithinDay o) ∧
      ¬ (PositiveDelay (OrderProcessor.cleanSelect row) ∧ LateWithinDay o) := by
  have day : (0 : Int) < dayMillis := by decide
  have kept := ((OdsOrders.ofData_eq_some_iff _ _).mp stored).2.2.2.2
  have sameDelivered : row.orderDeliveredCustomerDate = o.orderDeliveredCustomerDate := kept.1
  have sameEstimated : row.orderEstimatedDeliveryDate = o.orderEstimatedDeliveryDate := kept.2.1
  rw [isLate_iff, positiveDelay_iff, LateWithinDay, sameDelivered, sameEstimated]
  constructor
  · constructor
    · rintro ⟨delivered, estimated, known, expected, late⟩
      rcases le_or_gt (estimated + dayMillis) delivered with long | short
      · exact .inl ⟨delivered, estimated, known, expected, long⟩
      · exact .inr ⟨delivered, estimated, known, expected, late, short⟩
    · rintro (⟨delivered, estimated, known, expected, long⟩ |
        ⟨delivered, estimated, known, expected, late, -⟩)
      · exact ⟨delivered, estimated, known, expected, (lt_add_of_pos_right _ day).trans_le long⟩
      · exact ⟨delivered, estimated, known, expected, late⟩
  · rintro ⟨⟨delivered, estimated, known, expected, long⟩, other, limit, same, sameLimit, -, short⟩
    rw [known, Option.some.injEq] at same
    rw [expected, Option.some.injEq] at sameLimit
    subst same sameLimit
    exact absurd long short.not_ge

/-- An order is delivered one hour late. -/
def hourLate : OrdersSource :=
  ⟨⟨some "o1", some "c1", some "delivered", some 0, some 3600000, some 0⟩, some false⟩

def hourLateStored : OdsOrders := ⟨"o1", "c1", "delivered", 0, some 3600000, some 0, false⟩

theorem late_iff_on_hourLate :
    OdsOrders.ofData (OrderProcessor.cleanSelect hourLate) = some hourLateStored ∧
      (isLate hourLateStored = .true ↔
        PositiveDelay (OrderProcessor.cleanSelect hourLate) ∨ LateWithinDay hourLateStored) ∧
      ¬ (PositiveDelay (OrderProcessor.cleanSelect hourLate) ∧ LateWithinDay hourLateStored) := by
  have stored : OdsOrders.ofData (OrderProcessor.cleanSelect hourLate) = some hourLateStored := by
    decide
  exact ⟨stored, late_iff_delay_or_within_day hourLate hourLateStored stored⟩

/-- The order is clean, the view counts it as late, and its stored delay is zero days. -/
theorem hour_late_without_delay :
    OrderProcessor.processOrdersWithSQL.clean.Selects hourLate ∧
      OdsOrders.ofData (OrderProcessor.cleanSelect hourLate) = some hourLateStored ∧
      isLate hourLateStored = .true ∧
      (OrderProcessor.cleanSelect hourLate).deliveryDelayDays = some 0 ∧
      ¬ (isLate hourLateStored = .true ↔ PositiveDelay (OrderProcessor.cleanSelect hourLate)) := by
  have delay : (OrderProcessor.cleanSelect hourLate).deliveryDelayDays = some 0 := by decide
  have late : isLate hourLateStored = .true := by decide
  refine ⟨by decide, by decide, late, delay, ?_⟩
  intro agree
  obtain ⟨days, stored, positive⟩ := agree.mp late
  rw [delay, Option.some.injEq] at stored
  omega

end Orders

end OdsPipeline
