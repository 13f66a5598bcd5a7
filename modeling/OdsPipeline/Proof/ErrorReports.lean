import OdsPipeline.Construction.DataQuality

namespace OdsPipeline
open Library SqlQueries StarRocks MaterializedViews RealtimeDashboard DataQualityDashboard

section Table
variable {Columns : Type} (tableName : String) (now : Timestamp) (rows : List (ErrorSink Columns))

/-- The two views of a table count its live rows. -/
structure ViewsConsistent (trends : List ErrorTrend) (summary : ErrorSummary) : Prop where
  trends : (trends.map ErrorTrend.errorCount).sum = summary.totalErrors
  total : summary.totalErrors = (liveErrors rows).length
  day : summary.errors24h ≤ summary.totalErrors
  hours : summary.errors2h ≤ summary.errors24h

theorem inLastHours_mono (row : ErrorSink Columns) (recent : inLastHours 2 now row = .true) :
    inLastHours 24 now row = .true := by
  have longer : 2 * hourMillis ≤ 24 * hourMillis := by decide
  rw [inLastHours, Truth.ofBool_eq_true_iff, decide_eq_true_eq] at recent ⊢
  exact (Int.sub_le_sub_left longer now).trans recent

theorem viewsConsistent :
    ViewsConsistent rows (errorTrends tableName rows) (errorSummary tableName now rows) where
  trends := sum_groupBy_sizes _ _ ErrorTrend.errorCount (fun _ _ => rfl) (liveErrors rows)
  total := rfl
  day := countWhen_le_length _ _
  hours := countWhen_le_of_imp _ _ _ fun row _ => inLastHours_mono now row

/-- The number of live rows of a date. -/
def liveErrorsOn (date : Date) : Nat :=
  ((liveErrors rows).filter fun row => row.errorTimestamp.date = date).length

/-- A branch of the daily query counts the live rows of each recent date. -/
theorem sum_tableErrors (today date : Date) (recent : inLastWeek today date = true) :
    (((tableErrors today (errorTrends tableName rows)).filter fun errors =>
        errors.errorDate = date).map DailyErrors.totalErrors).sum = liveErrorsOn rows date := by
  have window : ((errorTrends tableName rows).filter fun trend =>
      inLastWeek today trend.errorDate).filter (fun trend => trend.errorDate = date) =
        (errorTrends tableName rows).filter fun trend => trend.errorDate = date := by
    rw [List.filter_filter]
    apply List.filter_congr
    intro trend _
    by_cases same : trend.errorDate = date
    · simp [same, recent]
    · simp [same]
  rw [tableErrors, sum_groupBy _ _ DailyErrors.totalErrors ErrorTrend.errorCount _
    fun trend => trend.errorDate = date, window, errorTrends,
    sum_groupBy _ _ ErrorTrend.errorCount (fun _ => 1) _
      fun row => row.errorTimestamp.date = date, sum_map_one, liveErrorsOn]
  · intro group inside
    rw [sum_map_one]
  · intro row _
    rfl
  · intro group inside
    rfl
  · intro row _
    rfl

end Table

section Tables
variable (now : Timestamp) (tables : ErrorTables)

/-- The number of live rows of all six tables of a date. -/
def allErrorsOn (date : Date) : Nat :=
  liveErrorsOn tables.orders.rows date + liveErrorsOn tables.orderItems.rows date +
    liveErrorsOn tables.products.rows date + liveErrorsOn tables.reviews.rows date +
    liveErrorsOn tables.payments.rows date + liveErrorsOn tables.customers.rows date

/-- The total that the dashboard shows for a date, and zero without a row of this date. -/
def dailyErrorsOn (date : Date) : Nat :=
  ((dailyErrorCount now.date tables).find? fun errors => errors.errorDate = date).elim 0
    DailyErrors.totalErrors

/-- The six branches together count the live rows of all tables. -/
theorem sum_allErrors (date : Date) (recent : inLastWeek now.date date = true) :
    (((allErrors now.date tables).filter fun errors => errors.errorDate = date).map
      DailyErrors.totalErrors).sum = allErrorsOn tables date := by
  have counted {Columns : Type} (tableName : String) (rows : List (ErrorSink Columns)) :=
    sum_tableErrors tableName rows now.date date recent
  simp only [allErrors, mvOrdersErrorTrends, mvOrderItemsErrorTrends, mvProductsErrorTrends,
    mvReviewsErrorTrends, mvPaymentsErrorTrends, mvCustomersErrorTrends, List.filter_append,
    List.map_append, List.sum_append, counted, allErrorsOn]

/-- The outer grouping keeps the sum of each date. -/
theorem dailyErrorsOn_eq (date : Date) (recent : inLastWeek now.date date = true) :
    dailyErrorsOn now tables date = allErrorsOn tables date := by
  have total := sum_allErrors now tables date recent
  have shown := elim_find_groupBy DailyErrors.errorDate
    (fun errorDate rows => DailyErrors.mk errorDate (rows.map DailyErrors.totalErrors).sum)
    (allErrors now.date tables) (dailyErrorCount now.date tables) (fun _ => mem_orderByDesc _ _ _)
    DailyErrors.errorDate (fun _ _ => rfl) DailyErrors.totalErrors 0 date
  rw [dailyErrorsOn, shown]
  split
  · next none =>
      rw [← total, none]
      rfl
  · dsimp only
    rw [total]

/-- The summaries, the trends and the dashboard count the same live error rows. -/
theorem error_reports_consistent :
    (ViewsConsistent tables.orders.rows (mvOrdersErrorTrends tables)
        (mvOrdersErrorSummary now tables) ∧
      ViewsConsistent tables.orderItems.rows (mvOrderItemsErrorTrends tables)
        (mvOrderItemsErrorSummary now tables) ∧
      ViewsConsistent tables.products.rows (mvProductsErrorTrends tables)
        (mvProductsErrorSummary now tables) ∧
      ViewsConsistent tables.reviews.rows (mvReviewsErrorTrends tables)
        (mvReviewsErrorSummary now tables) ∧
      ViewsConsistent tables.payments.rows (mvPaymentsErrorTrends tables)
        (mvPaymentsErrorSummary now tables) ∧
      ViewsConsistent tables.customers.rows (mvCustomersErrorTrends tables)
        (mvCustomersErrorSummary now tables)) ∧
      ∀ date, now.date - 7 ≤ date → dailyErrorsOn now tables date = allErrorsOn tables date := by
  constructor
  · exact ⟨viewsConsistent "orders" now tables.orders.rows,
      viewsConsistent "order_items" now tables.orderItems.rows,
      viewsConsistent "products" now tables.products.rows,
      viewsConsistent "reviews" now tables.reviews.rows,
      viewsConsistent "payments" now tables.payments.rows,
      viewsConsistent "customers" now tables.customers.rows⟩
  · intro date recent
    exact dailyErrorsOn_eq now tables date (decide_eq_true recent)

end Tables

end OdsPipeline
