import OdsPipeline.Construction.DataQuality

namespace OdsPipeline
open Library SqlQueries StarRocks MaterializedViews DataQualityDashboard

/-- The part of a live error row that the error views read. -/
structure LiveReport where
  errorTimestamp : Timestamp
  errorType : String
  errorMessage : String
  deriving DecidableEq

namespace LiveReport

def ofRow {Columns : Type} (row : ErrorSink Columns) : LiveReport :=
  ⟨row.errorTimestamp, row.errorType, row.errorMessage⟩

/-- The trends group by the date, the type and the message. -/
def group (report : LiveReport) : Date × String × String :=
  (report.errorTimestamp.date, report.errorType, report.errorMessage)

end LiveReport

/-- The error tables in the order of each UNION ALL. -/
inductive ErrorTable where
  | orders
  | orderItems
  | products
  | reviews
  | payments
  | customers
  deriving DecidableEq

namespace ErrorTable

def all : List ErrorTable := [.orders, .orderItems, .products, .reviews, .payments, .customers]

theorem mem_all (table : ErrorTable) : table ∈ all := by cases table <;> decide

/-- The name of the table in the views. -/
def label : ErrorTable → String
  | .orders => "orders"
  | .orderItems => "order_items"
  | .products => "products"
  | .reviews => "reviews"
  | .payments => "payments"
  | .customers => "customers"

theorem label_injective : Function.Injective label := by
  intro first second same
  cases first <;> cases second <;> first | rfl | exact absurd same (by decide)

section Rows
variable (errors : ErrorTables)

/-- The live rows of a table. -/
def live : ErrorTable → List LiveReport
  | .orders => (liveErrors errors.orders.rows).map .ofRow
  | .orderItems => (liveErrors errors.orderItems.rows).map .ofRow
  | .products => (liveErrors errors.products.rows).map .ofRow
  | .reviews => (liveErrors errors.reviews.rows).map .ofRow
  | .payments => (liveErrors errors.payments.rows).map .ofRow
  | .customers => (liveErrors errors.customers.rows).map .ofRow

def trends : ErrorTable → List ErrorTrend
  | .orders => mvOrdersErrorTrends errors
  | .orderItems => mvOrderItemsErrorTrends errors
  | .products => mvProductsErrorTrends errors
  | .reviews => mvReviewsErrorTrends errors
  | .payments => mvPaymentsErrorTrends errors
  | .customers => mvCustomersErrorTrends errors

/-- The number of live rows since a time. -/
def reportsSince (since : Timestamp) (table : ErrorTable) : Nat :=
  ((table.live errors).filter fun report => since ≤ report.errorTimestamp).length

/-- The number of live rows with the date, the type and the message of a report. -/
def reportsLike (table : ErrorTable) (report : LiveReport) : Nat :=
  ((table.live errors).filter fun other => other.group = report.group).length

end Rows

/-- The row of a group of live reports. -/
def trendOf (tableName : String) (group : Date × String × String) (reports : List LiveReport) :
    ErrorTrend where
  errorDate := group.1
  tableName := tableName
  errorCount := reports.length
  errorType := group.2.1
  errorMessage := group.2.2

theorem errorTrends_eq {Columns : Type} (tableName : String) (rows : List (ErrorSink Columns)) :
    errorTrends tableName rows =
      groupBy LiveReport.group (trendOf tableName) ((liveErrors rows).map .ofRow) := by
  rw [groupBy_map]
  simp only [trendOf, List.length_map]
  rfl

/-- Each trend view groups the live rows of its table. -/
theorem trends_eq (errors : ErrorTables) (table : ErrorTable) :
    table.trends errors = groupBy LiveReport.group (trendOf table.label) (table.live errors) := by
  cases table <;> exact errorTrends_eq _ _

end ErrorTable

section Messages
variable (today : Date) (errors : ErrorTables)

/-- The message that stands for the group of a report. -/
def messageOf (table : ErrorTable) (report : LiveReport) : RecentError where
  errorType := report.errorType
  errorMessage := report.errorMessage
  tableName := table.label
  errorDate := report.errorTimestamp.date
  frequency := table.reportsLike errors report

theorem allRecentErrors_eq : allRecentErrors today errors =
    ErrorTable.all.flatMap fun table => tableMessages today (table.trends errors) := by
  simp only [ErrorTable.all, List.flatMap_cons, List.flatMap_nil, List.append_nil, allRecentErrors,
    List.append_assoc]
  rfl

/-- The messages before the limit are those of the recent reports. -/
theorem mem_allRecentErrors (message : RecentError) : message ∈ allRecentErrors today errors ↔
    ∃ table : ErrorTable, ∃ report ∈ table.live errors,
      today - 1 ≤ report.errorTimestamp.date ∧ message = messageOf errors table report := by
  rw [allRecentErrors_eq, List.mem_flatMap]
  constructor
  · rintro ⟨table, -, inside⟩
    obtain ⟨trend, member, rfl⟩ := List.mem_map.mp inside
    rw [List.mem_filter, ErrorTable.trends_eq, mem_groupBy] at member
    obtain ⟨⟨report, stored, rfl⟩, recent⟩ := member
    exact ⟨table, report, stored, of_decide_eq_true recent, rfl⟩
  · rintro ⟨table, report, stored, recent, rfl⟩
    let trend := ErrorTable.trendOf table.label report.group
      ((table.live errors).filter fun other => other.group = report.group)
    have listed : trend ∈ table.trends errors := by
      rw [ErrorTable.trends_eq, mem_groupBy]
      exact ⟨report, stored, rfl⟩
    have kept : trend ∈ (table.trends errors).filter fun trend =>
        inLastDay today trend.errorDate := List.mem_filter.mpr ⟨listed, decide_eq_true recent⟩
    exact ⟨table, table.mem_all, List.mem_map.mpr ⟨trend, kept, rfl⟩⟩

theorem tableName_of_mem (table : ErrorTable) (message : RecentError)
    (inside : message ∈ tableMessages today (table.trends errors)) :
    message.tableName = table.label := by
  obtain ⟨trend, member, rfl⟩ := List.mem_map.mp inside
  have stored := List.mem_of_mem_filter member
  rw [ErrorTable.trends_eq, mem_groupBy] at stored
  obtain ⟨report, -, rfl⟩ := stored
  rfl

/-- A group has one message, also among the messages of all tables. -/
theorem nodup_allRecentErrors : (allRecentErrors today errors).Nodup := by
  rw [allRecentErrors_eq, List.nodup_flatMap]
  constructor
  · intro table _
    have distinct : (table.trends errors).Nodup := by
      rw [ErrorTable.trends_eq]
      exact nodup_groupBy LiveReport.group (ErrorTable.trendOf table.label) (table.live errors)
        (fun trend => (trend.errorDate, trend.errorType, trend.errorMessage)) fun _ _ => rfl
    apply (distinct.filter _).map_on
    rintro ⟨_, _, _, _, _⟩ _ ⟨_, _, _, _, _⟩ _ same
    simp only [RecentError.mk.injEq] at same
    obtain ⟨rfl, rfl, rfl, rfl, rfl⟩ := same
    rfl
  · have apart : ErrorTable.all.Pairwise (· ≠ ·) := by decide
    apply apart.imp
    intro first second different message inFirst inSecond
    apply different
    apply ErrorTable.label_injective
    rw [← tableName_of_mem today errors first message inFirst,
      tableName_of_mem today errors second message inSecond]

/-- The messages of one table among those of all tables. -/
theorem filter_allRecentErrors (table : ErrorTable) :
    (allRecentErrors today errors).filter (fun message => message.tableName = table.label) =
      tableMessages today (table.trends errors) := by
  have own (other : ErrorTable) : (tableMessages today (other.trends errors)).filter
      (fun message => message.tableName = table.label) =
        if other = table then tableMessages today (table.trends errors) else [] := by
    by_cases same : other = table
    · rw [if_pos same, same, List.filter_eq_self]
      intro message inside
      exact decide_eq_true (tableName_of_mem today errors table message inside)
    · rw [if_neg same, List.filter_eq_nil_iff]
      intro message inside labelled
      rw [tableName_of_mem today errors other message inside, decide_eq_true_eq] at labelled
      exact same (ErrorTable.label_injective labelled)
  rw [allRecentErrors_eq, List.filter_flatMap]
  simp only [own]
  cases table <;> exact List.append_nil _

/-- The messages of a table count its reports of yesterday and of today. -/
theorem sum_tableMessages (table : ErrorTable) :
    ((tableMessages today (table.trends errors)).map RecentError.frequency).sum =
      ((table.live errors).filter fun report => today - 1 ≤ report.errorTimestamp.date).length := by
  rw [tableMessages, List.map_map, ErrorTable.trends_eq]
  have counted := sum_groupBy LiveReport.group (ErrorTable.trendOf table.label)
    ErrorTrend.errorCount (fun _ => 1) (fun trend => inLastDay today trend.errorDate)
    (fun report => inLastDay today report.errorTimestamp.date)
    (fun group reports => (sum_map_one reports).symm) (table.live errors) fun _ _ => rfl
  rw [sum_map_one] at counted
  exact counted

/-- The message table shows the recent groups of live reports, the newest and largest first. -/
structure MessagesShow : Prop where
  counted : ∀ message ∈ recentErrorMessages today errors, ∃ table : ErrorTable,
    ∃ report ∈ table.live errors, today - 1 ≤ report.errorTimestamp.date ∧
      message = messageOf errors table report
  once : (recentErrorMessages today errors).Nodup
  sorted : (recentErrorMessages today errors).Pairwise fun first second =>
    second.errorDate < first.errorDate ∨
      second.errorDate = first.errorDate ∧ second.frequency ≤ first.frequency
  covered : ∀ table : ErrorTable, ∀ report ∈ table.live errors,
    today - 1 ≤ report.errorTimestamp.date →
      messageOf errors table report ∈ recentErrorMessages today errors ∨
        (recentErrorMessages today errors).length = 20 ∧
          ∀ message ∈ recentErrorMessages today errors,
            report.errorTimestamp.date < message.errorDate ∨
              report.errorTimestamp.date = message.errorDate ∧
                table.reportsLike errors report ≤ message.frequency

theorem messagesShow : MessagesShow today errors := by
  let rank (message : RecentError) := toLex (message.errorDate, message.frequency)
  have before (first second : RecentError) : rank second ≤ rank first ↔
      second.errorDate < first.errorDate ∨
        second.errorDate = first.errorDate ∧ second.frequency ≤ first.frequency :=
    Prod.Lex.toLex_le_toLex
  constructor
  case counted =>
    intro message shown
    apply (mem_allRecentErrors today errors message).mp
    exact topRows_subset rank 20 _ shown
  case once => exact nodup_topRows rank 20 _ (nodup_allRecentErrors today errors)
  case sorted =>
    exact (pairwise_topRows rank 20 _).imp fun {first second} => (before first second).mp
  case covered =>
    intro table report stored recent
    have listed := (mem_allRecentErrors today errors _).mpr ⟨table, report, stored, recent, rfl⟩
    rcases mem_topRows_or rank 20 _ _ listed with shown | ⟨full, later⟩
    · exact Or.inl shown
    · exact Or.inr ⟨full, fun message shown => (before _ _).mp (later message shown)⟩

end Messages

section Explained

/-- The last 24 hours lie in two dates. -/
theorem date_of_lastDay (now time : Timestamp) (recent : now - 24 * hourMillis ≤ time) :
    now.date - 1 ≤ time.date := by
  have days (now time : Int) (recent : now - 24 * 3600000 ≤ time) :
      now / 86400000 - 1 ≤ time / 86400000 := by omega
  exact days now time recent

/-- The message table sums to the reports of two dates for each table that it does not cut off. -/
def MessagesAccount (now : Timestamp) (errors : ErrorTables) (table : ErrorTable) : Prop :=
  let shown := (recentErrorMessages now.date errors).filter fun message =>
    message.tableName = table.label
  (shown.map RecentError.frequency).sum =
      ((table.live errors).filter fun report =>
        now.date - 1 ≤ report.errorTimestamp.date).length ∧
    table.reportsSince errors (now - 24 * hourMillis) ≤ (shown.map RecentError.frequency).sum

/-- In every state of the error tables the message table shows the recent groups with their numbers
of live rows, in their order and without a gap; while it is not full, the messages of each table
count all its reports of the last 24 hours. -/
theorem recent_messages_account (now : Timestamp) (errors : ErrorTables) :
    MessagesShow now.date errors ∧
      ((recentErrorMessages now.date errors).length < 20 →
        ∀ table, MessagesAccount now errors table) := by
  refine ⟨messagesShow now.date errors, fun short table => ?_⟩
  have all := topRows_perm (fun error : RecentError => toLex (error.errorDate, error.frequency)) 20
    (allRecentErrors now.date errors) short
  have own := all.filter fun message => decide (message.tableName = table.label)
  rw [filter_allRecentErrors] at own
  have total := (own.map RecentError.frequency).sum_eq
  rw [sum_tableMessages] at total
  refine ⟨total, ?_⟩
  rw [recentErrorMessages, total, ErrorTable.reportsSince]
  apply List.Sublist.length_le
  apply List.monotone_filter_right
  intro report recent
  exact decide_eq_true (date_of_lastDay now _ (of_decide_eq_true recent))

end Explained

end OdsPipeline
