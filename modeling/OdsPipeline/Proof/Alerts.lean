import OdsPipeline.Library.Standing
import OdsPipeline.Proof.Accounts
import OdsPipeline.Proof.ErrorDashboard

namespace OdsPipeline
open Library SqlQueries StarRocks OdsETLJob MaterializedViews DataQualityDashboard

/-- The error tables that the views and the alert read. -/
def OdsETLJob.Jobs.errorTables (jobs : Jobs) : ErrorTables where
  orders := jobs.orders.error
  orderItems := jobs.orderItems.error
  products := jobs.products.error
  reviews := jobs.reviews.error
  payments := jobs.payments.error
  customers := jobs.customers.error

namespace Feed.Errors
variable {Row Key Source Data Columns CleanKey : Type} [DecidableEq Key] [DecidableEq CleanKey]
  {feed : Feed Row Key Source Data Columns CleanKey (CleanKey × Timestamp)} (errors : feed.Errors)

/-- The ids and the times of the reports that the records leave. -/
def reports (_ : feed.Errors) (records : List (Timestamp × OdsETLJob.Record)) :
    List (CleanKey × Timestamp) :=
  feed.processor.error.standingKeys true (records.filterMap feed.record)

/-- The live rows since a time are the reports since this time. -/
theorem length_live
    (stamped : ∀ now row, (feed.processor.error.select now row).errorTimestamp = now)
    (unmarked : ∀ now row, (feed.processor.error.select now row).isDeleted = false)
    (records : List (Timestamp × OdsETLJob.Record)) (since : Timestamp) :
    (((liveErrors (errors.error (main.run records)).rows).map LiveReport.ofRow).filter fun report =>
        since ≤ report.errorTimestamp).length =
      ((errors.reports records).filter fun report => since ≤ report.2).length := by
  rw [errors.error_run, List.filter_map, List.length_map, liveErrors, List.filter_filter]
  apply feed.processor.error.length_filter_deliver
  intro row stored
  obtain ⟨record, -, -, rfl⟩ := feed.processor.error.mem_deliver true _ row stored
  rw [errors.errorKey, unmarked]
  change (decide (since ≤ (feed.processor.error.select record.1 record.2.row).errorTimestamp) &&
    true) = _
  rw [stamped, Bool.and_true]

/-- Records with later times leave all reports. -/
theorem reports_grow (own : feed.ReadsOwn) (records more : List (Timestamp × OdsETLJob.Record))
    (since : Timestamp) (later : ∀ next ∈ more, ∀ record ∈ records, record.1 < next.1) :
    ((errors.reports records).filter fun report => since ≤ report.2).length ≤
      ((errors.reports (records ++ more)).filter fun report => since ≤ report.2).length := by
  rw [reports, reports, List.filterMap_append]
  apply feed.processor.error.length_standingKeys_le
  intro key stands next member touches
  have named : feed.processor.error.primaryKey
      (feed.processor.error.select next.1 next.2.row) = key := touches.elim (·.2.2) (·.2.2)
  obtain ⟨record, stored, same⟩ := List.mem_map.mp
    (feed.processor.error.mem_selectedKeys_of_stands true _ key stands)
  obtain ⟨arrived, old, found⟩ := List.mem_filterMap.mp (List.mem_of_mem_filter stored)
  obtain ⟨arriving, new, reached⟩ := List.mem_filterMap.mp member
  have ordered := later arriving new arrived old
  rw [own _ _ found, own _ _ reached] at ordered
  -- Both records would have the time of the key.
  rw [← same, errors.errorKey, errors.errorKey] at named
  have equal : next.1 = record.1 := congrArg Prod.snd named
  rw [equal] at ordered
  exact absurd ordered (lt_irrefl _)

/-- The number of records that the error statement selects. -/
def selected (_ : feed.Errors) (records : List (Timestamp × OdsETLJob.Record)) : Nat :=
  (feed.processor.error.selectedKeys (records.filterMap feed.record)).length

theorem reports_append_le (records more : List (Timestamp × OdsETLJob.Record))
    (since : Timestamp) :
    ((errors.reports (records ++ more)).filter fun report => since ≤ report.2).length ≤
      ((errors.reports records).filter fun report => since ≤ report.2).length +
        errors.selected more := by
  rw [reports, reports, selected, List.filterMap_append]
  exact feed.processor.error.length_standingKeys_append_le true _ _ _

end Feed.Errors

section Reports
variable (records : List (Timestamp × OdsETLJob.Record))

/-- The number of reports that stand in a table since a time. -/
def standingSince (since : Timestamp) : ErrorTable → Nat
  | .orders => ((ordersErrors.reports records).filter fun report => since ≤ report.2).length
  | .orderItems => ((orderItemsErrors.reports records).filter fun report => since ≤ report.2).length
  | .products => ((productsErrors.reports records).filter fun report => since ≤ report.2).length
  | .reviews => ((reviewsErrors.reports records).filter fun report => since ≤ report.2).length
  | .payments => ((paymentsErrors.reports records).filter fun report => since ≤ report.2).length
  | .customers => ((customersErrors.reports records).filter fun report => since ≤ report.2).length

/-- The number of records that the error statement of a table selects. -/
def selectedFor : ErrorTable → Nat
  | .orders => ordersErrors.selected records
  | .orderItems => orderItemsErrors.selected records
  | .products => productsErrors.selected records
  | .reviews => reviewsErrors.selected records
  | .payments => paymentsErrors.selected records
  | .customers => customersErrors.selected records

/-- The live rows of each error table are the reports that stand. -/
theorem reportsSince_run (since : Timestamp) (table : ErrorTable) :
    table.reportsSince (main.run records).errorTables since =
      standingSince records since table := by
  cases table
  case orders => exact ordersErrors.length_live (fun _ _ => rfl) (fun _ _ => rfl) records since
  case orderItems =>
    exact orderItemsErrors.length_live (fun _ _ => rfl) (fun _ _ => rfl) records since
  case products => exact productsErrors.length_live (fun _ _ => rfl) (fun _ _ => rfl) records since
  case reviews => exact reviewsErrors.length_live (fun _ _ => rfl) (fun _ _ => rfl) records since
  case payments => exact paymentsErrors.length_live (fun _ _ => rfl) (fun _ _ => rfl) records since
  case customers =>
    exact customersErrors.length_live (fun _ _ => rfl) (fun _ _ => rfl) records since

theorem standingSince_grow (more : List (Timestamp × OdsETLJob.Record)) (since : Timestamp)
    (later : ∀ next ∈ more, ∀ record ∈ records, record.1 < next.1) (table : ErrorTable) :
    standingSince records since table ≤ standingSince (records ++ more) since table := by
  cases table with
  | orders => exact ordersErrors.reports_grow ordersFeed_readsOwn records more since later
  | orderItems => exact orderItemsErrors.reports_grow orderItemsFeed_readsOwn records more since later
  | products => exact productsErrors.reports_grow productsFeed_readsOwn records more since later
  | reviews => exact reviewsErrors.reports_grow reviewsFeed_readsOwn records more since later
  | payments => exact paymentsErrors.reports_grow paymentsFeed_readsOwn records more since later
  | customers => exact customersErrors.reports_grow customersFeed_readsOwn records more since later

theorem standingSince_append_le (more : List (Timestamp × OdsETLJob.Record)) (since : Timestamp)
    (table : ErrorTable) : standingSince (records ++ more) since table ≤
      standingSince records since table + selectedFor more table := by
  cases table with
  | orders => exact ordersErrors.reports_append_le records more since
  | orderItems => exact orderItemsErrors.reports_append_le records more since
  | products => exact productsErrors.reports_append_le records more since
  | reviews => exact reviewsErrors.reports_append_le records more since
  | payments => exact paymentsErrors.reports_append_le records more since
  | customers => exact customersErrors.reports_append_le records more since

end Reports

section Queries
variable (errors : ErrorTables)

/-- The alert counts the tables with more than 20 live rows of the last 24 hours. -/
theorem criticalTablesCount_eq (now : Timestamp) : criticalTablesCount now errors =
    (ErrorTable.all.filter fun table =>
      20 < table.reportsSince errors (now - 24 * hourMillis)).length := by
  have status {Columns : Type} (tableName : String) (rows : List (ErrorSink Columns)) :
      tableStatus tableName now rows = ⟨tableName, (((liveErrors rows).map
        LiveReport.ofRow).filter fun report =>
          now - 24 * hourMillis ≤ report.errorTimestamp).length⟩ := by
    rw [List.filter_map, List.length_map, liveErrors, List.filter_filter, tableStatus]
    congr 3
    funext row
    cases row.isDeleted <;> rfl
  have counted : allTableStatus now errors = ErrorTable.all.map fun table =>
      ⟨table.label, table.reportsSince errors (now - 24 * hourMillis)⟩ := by
    simp only [allTableStatus, status]
    rfl
  rw [criticalTablesCount, counted, List.filter_map, List.length_map]
  rfl

/-- The bar of a table, before the empty bars are left out. -/
def barOf (refreshed : Timestamp) (table : ErrorTable) : ErrorTypeCount :=
  ⟨table.label, table.reportsSince errors (refreshed - 24 * hourMillis)⟩

theorem errorTypesDistribution_eq (refreshed : Timestamp) :
    errorTypesDistribution refreshed errors = orderByDesc ErrorTypeCount.errorCount
      ((ErrorTable.all.map (barOf errors refreshed)).filter fun bar => 0 < bar.errorCount) := by
  have counted {Columns : Type} (rows : List (ErrorSink Columns)) :
      countWhen (inLastHours 24 refreshed) (liveErrors rows) =
        (((liveErrors rows).map LiveReport.ofRow).filter fun report =>
          refreshed - 24 * hourMillis ≤ report.errorTimestamp).length := by
    rw [List.filter_map, List.length_map, countWhen]
    congr 1
    apply List.filter_congr
    intro row _
    simp only [inLastHours, Truth.ofBool_eq_true_iff, decide_eq_true_eq]
    rfl
  have bars : (allSummaries refreshed errors).map
      (fun summary => ErrorTypeCount.mk summary.tableName summary.errors24h) =
        ErrorTable.all.map (barOf errors refreshed) := by
    simp only [allSummaries, mvOrdersErrorSummary, mvOrderItemsErrorSummary,
      mvProductsErrorSummary, mvReviewsErrorSummary, mvPaymentsErrorSummary,
      mvCustomersErrorSummary, errorSummary, List.map_cons, List.map_nil, counted]
    rfl
  rw [errorTypesDistribution, ← bars, List.filter_map]
  rfl

/-- The high bars are those of the tables with more than 20 reports. -/
theorem length_highBars (refreshed : Timestamp) :
    ((errorTypesDistribution refreshed errors).filter fun bar => 20 < bar.errorCount).length =
      (ErrorTable.all.filter fun table =>
        20 < table.reportsSince errors (refreshed - 24 * hourMillis)).length := by
  have ordered := (perm_orderByDesc ErrorTypeCount.errorCount
    ((ErrorTable.all.map (barOf errors refreshed)).filter fun bar => 0 < bar.errorCount)).filter
      fun bar => decide (20 < bar.errorCount)
  rw [errorTypesDistribution_eq, ordered.length_eq, List.filter_filter, List.filter_map,
    List.length_map]
  congr 1
  apply List.filter_congr
  intro table _
  change (decide (20 < _) && decide (0 < _)) = _
  rw [← Bool.decide_and, decide_eq_decide]
  constructor
  · intro high
    exact high.1
  · intro high
    exact ⟨high, Nat.zero_lt_of_lt high⟩

end Queries

/-- The records that the six jobs have read before a refresh of the chart, and between the refresh
and the alert. Their targets store all that the jobs write. -/
structure AlertedRun where
  records : List (Timestamp × OdsETLJob.Record)
  later : List (Timestamp × OdsETLJob.Record)
  stored : ∀ arrived ∈ records ++ later, arrived.2.Stored arrived.1

namespace AlertedRun
variable (run : AlertedRun)

/-- The error tables that the chart was refreshed from. -/
def shown : ErrorTables := (main.run run.records).errorTables

/-- The error tables at the alert. -/
def current : ErrorTables := (main.run (run.records ++ run.later)).errorTables

/-- The number of reports that stand in a table at the alert. -/
def standing (since : Timestamp) (table : ErrorTable) : Nat :=
  standingSince (run.records ++ run.later) since table

end AlertedRun

/-- The bar chart and the alert count the reports that stand. -/
structure AlertFollows (run : AlertedRun) (refreshed : Timestamp) (age : Nat) : Prop where
  held : (main.run (run.records ++ run.later)).TargetsHold
  bars : (errorTypesDistribution refreshed run.shown).Perm
    ((ErrorTable.all.map fun table => ErrorTypeCount.mk table.label
      (standingSince run.records (refreshed - 24 * hourMillis) table)).filter fun bar =>
        0 < bar.errorCount)
  sorted : (errorTypesDistribution refreshed run.shown).Pairwise
    fun first second => second.errorCount ≤ first.errorCount
  alert : criticalTablesCount (refreshed + age) run.current =
    (ErrorTable.all.filter fun table =>
      20 < run.standing (refreshed + age - 24 * hourMillis) table).length
  seen : ∀ table, run.standing (refreshed + age - 24 * hourMillis) table ≤
    standingSince run.records (refreshed - 24 * hourMillis) table + selectedFor run.later table
  fresh : run.later = [] → age = 0 → criticalTablesCount (refreshed + age) run.current =
    ((errorTypesDistribution refreshed run.shown).filter fun bar => 20 < bar.errorCount).length
  stays : (∀ next ∈ run.later, ∀ record ∈ run.records, record.1 < next.1) →
    ∀ now, criticalTablesCount now run.shown ≤ criticalTablesCount now run.current

section Windows
variable (records : List (Timestamp × OdsETLJob.Record))

/-- A longer window holds at least as many reports. -/
theorem standingSince_anti (first second : Timestamp) (order : first ≤ second)
    (table : ErrorTable) : standingSince records second table ≤ standingSince records first table := by
  rw [← reportsSince_run, ← reportsSince_run]
  apply List.Sublist.length_le
  apply List.monotone_filter_right
  intro report recent
  exact decide_eq_true (order.trans (of_decide_eq_true recent))

/-- More reports in each table leave no fewer critical tables. -/
theorem length_critical_le (first second : ErrorTable → Nat)
    (larger : ∀ table, first table ≤ second table) :
    (ErrorTable.all.filter fun table => 20 < first table).length ≤
      (ErrorTable.all.filter fun table => 20 < second table).length := by
  apply List.Sublist.length_le
  apply List.monotone_filter_right
  intro table high
  exact decide_eq_true ((of_decide_eq_true high).trans_le (larger table))

end Windows

/-- Whatever the six jobs have read in whatever order, if it can be stored, the chart shows the
reports that stand since its refresh, and the alert counts the tables with more than 20 of them in
the last 24 hours. Such a table has at most its bar and the records that its error statement has
selected since the refresh, and no later record takes a table out of the alert. -/
theorem alert_counts_standing_reports (run : AlertedRun) (refreshed : Timestamp) (age : Nat) :
    AlertFollows run refreshed age := by
  constructor
  case held => exact targetsHold_run _ run.stored
  case bars =>
    rw [errorTypesDistribution_eq]
    have shown : barOf run.shown refreshed = fun table => ErrorTypeCount.mk table.label
        (standingSince run.records (refreshed - 24 * hourMillis) table) := by
      funext table
      rw [barOf, AlertedRun.shown, reportsSince_run]
    rw [shown]
    exact perm_orderByDesc _ _
  case sorted =>
    rw [errorTypesDistribution_eq]
    exact pairwise_orderByDesc _ _
  case alert =>
    rw [criticalTablesCount_eq]
    simp only [AlertedRun.current, AlertedRun.standing, reportsSince_run]
    rfl
  case seen =>
    intro table
    have longer (start window : Int) : start - window ≤ start + age - window := by omega
    have recent := standingSince_anti (run.records ++ run.later) _ _
      (longer refreshed (24 * hourMillis)) table
    exact Nat.le_trans recent (standingSince_append_le run.records run.later _ table)
  case fresh =>
    intro nothing atOnce
    have same : refreshed + (age : Int) = refreshed := by rw [atOnce]; exact add_zero refreshed
    have tables : run.current = run.shown := by
      rw [AlertedRun.current, nothing, List.append_nil]
      rfl
    rw [same, tables, criticalTablesCount_eq, length_highBars]
  case stays =>
    intro later now
    rw [criticalTablesCount_eq, criticalTablesCount_eq]
    apply length_critical_le
    intro table
    rw [AlertedRun.shown, AlertedRun.current, reportsSince_run, reportsSince_run]
    exact standingSince_grow run.records run.later _ later table

section Example

/-- One order is read again and again. -/
def rejectedAgain (first count : Nat) : List (Timestamp × OdsETLJob.Record) :=
  (List.range' first count).map fun time => (time, .orders ⟨.insert,
    ⟨⟨some "o1", none, some "shipped", some 0, none, none⟩, some false⟩⟩)

/-- The chart has a bar of 20 reports, and one more arrives before the alert. -/
def oneMore : AlertedRun where
  records := rejectedAgain 0 20
  later := rejectedAgain 20 1
  stored := by decide +kernel

example : criticalTablesCount 21 oneMore.current = 1 ∧ criticalTablesCount 21 oneMore.shown = 0 := by
  decide +kernel

/-- The later record adds a table to the alert and takes none out. -/
theorem one_more_stays :
    criticalTablesCount 21 oneMore.shown ≤ criticalTablesCount 21 oneMore.current := by
  have later : ∀ next ∈ oneMore.later, ∀ record ∈ oneMore.records, record.1 < next.1 := by
    decide +kernel
  exact (alert_counts_standing_reports oneMore 20 1).stays later 21

end Example

end OdsPipeline
