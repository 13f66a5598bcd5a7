import OdsPipeline.Proof.CategoryCustomers
import OdsPipeline.Proof.OrderCounts

namespace OdsPipeline
open Library StarRocks MaterializedViews PeriodicDashboard

section Groups
variable (tables : CleanTables)

/-- The joined payments of a weekday. -/
def weekdayRows (day : Int) : List (OdsOrders × OdsPayments) :=
  joinedRows tables fun o => weekday o = day

/-- The joined payments of a payment type. -/
def paymentTypeRows (paymentType : String) : List (OdsOrders × OdsPayments) :=
  (ordersWithPayments tables).filter fun row => row.2.paymentType = paymentType

/-- The covariance of size and average price over the category names of a group. -/
def categoryCovariance (group : String) : ℚ :=
  sizeCovariance (fun row => (row.1.1.categoryGroup, row.1.1.productCategoryName))
    (fun row => row.1.2.price) (groupRows tables group)

/-- The covariance of size and average payment over the payment types of a weekday. -/
def weekdayCovariance (day : Int) : ℚ :=
  sizeCovariance (fun row => (weekday row.1, row.2.paymentType)) (fun row => row.2.paymentValue)
    (weekdayRows tables day)

/-- The covariance of size and average payment over the weekdays of a payment type. -/
def paymentTypeCovariance (paymentType : String) : ℚ :=
  sizeCovariance (fun row => (weekday row.1, row.2.paymentType)) (fun row => row.2.paymentValue)
    (paymentTypeRows tables paymentType)

/-- Each rolled average is the mean of its rows to the cent. -/
structure AveragesRight : Prop where
  categories : ∀ row ∈ revenueByCategory tables,
    |row.avgItemPrice - average (fun line => line.1.2.price)
      (groupRows tables row.categoryGroup)| ≤ 1 / 100
  weekdays : ∀ row ∈ ordersByWeekday tables,
    |row.avgOrderValue - average (fun pair => pair.2.paymentValue)
      (weekdayRows tables row.dayOfWeek)| ≤ 1 / 100
  paymentTypes : ∀ row ∈ revenueByPaymentType tables,
    |row.avgTransactionValue - average (fun pair => pair.2.paymentValue)
      (paymentTypeRows tables row.paymentType)| ≤ 1 / 100

/-- No group has larger parts at higher or at lower averages. -/
structure SizesBalanced : Prop where
  categories : ∀ line ∈ productsWithOrders tables,
    categoryCovariance tables line.1.1.categoryGroup = 0
  weekdays : ∀ pair ∈ ordersWithPayments tables, weekdayCovariance tables (weekday pair.1) = 0
  paymentTypes : ∀ pair ∈ ordersWithPayments tables,
    paymentTypeCovariance tables pair.2.paymentType = 0

/-- The covariances allow two cents for each row. -/
structure SizesNearlyBalanced : Prop where
  categories : ∀ line ∈ productsWithOrders tables,
    |categoryCovariance tables line.1.1.categoryGroup| ≤
      1 / 50 * (groupRows tables line.1.1.categoryGroup).length
  weekdays : ∀ pair ∈ ordersWithPayments tables, |weekdayCovariance tables (weekday pair.1)| ≤
    1 / 50 * (weekdayRows tables (weekday pair.1)).length
  paymentTypes : ∀ pair ∈ ordersWithPayments tables,
    |paymentTypeCovariance tables pair.2.paymentType| ≤
      1 / 50 * (paymentTypeRows tables pair.2.paymentType).length

end Groups

section Queries
variable (tables : CleanTables)

/-- An average of cents over averages in cents is off by at most one cent. -/
theorem abs_rolledCents_sub_le {Row Key Value : Type*} [DecidableEq Key] (key : Row → Key)
    (value : Row → ℚ) (aggregate : Key → List Row → Value) (measure : Value → ℚ)
    (measured : ∀ group rows, measure (aggregate group rows) = roundTo 2 (average value rows))
    (rows : List Row) (nonempty : rows ≠ []) :
    |roundTo 2 (average measure (groupBy key aggregate rows)) - averageOfGroups key value rows| ≤
      1 / 100 := by
  have cent := abs_rolledAverage_sub_le key value aggregate measure 2 measured rows nonempty
  norm_num at cent ⊢
  exact cent

/-- A category row averages the average prices of its category names. -/
theorem avgItemPrice_near (row : CategoryTotal) (member : row ∈ revenueByCategory tables) :
    groupRows tables row.categoryGroup ≠ [] ∧ |row.avgItemPrice - averageOfGroups
      (fun line => (line.1.1.categoryGroup, line.1.1.productCategoryName))
      (fun line => line.1.2.price) (groupRows tables row.categoryGroup)| ≤ 1 / 100 := by
  rw [revenueByCategory, mem_orderByDesc] at member
  obtain ⟨name, inView, rfl⟩ := (mem_groupBy _ _ _ _).mp member
  obtain ⟨line, joined, rfl⟩ := (mem_groupBy _ _ _ _).mp inView
  have nonempty : groupRows tables line.1.1.categoryGroup ≠ [] :=
    List.ne_nil_of_mem (List.mem_filter.mpr ⟨joined, decide_eq_true rfl⟩)
  refine ⟨nonempty, ?_⟩
  change |roundTo 2 (average CategoryRevenue.avgItemPrice
    (groupNames tables line.1.1.categoryGroup)) - _| ≤ _
  rw [groupNames_eq]
  apply abs_rolledCents_sub_le _ _ _ _ _ _ nonempty
  intro group rows
  rfl

/-- A weekday row averages the average payments of its payment types. -/
theorem avgOrderValue_near (row : WeekdayTotal) (member : row ∈ ordersByWeekday tables) :
    weekdayRows tables row.dayOfWeek ≠ [] ∧ |row.avgOrderValue - averageOfGroups
      (fun pair => (weekday pair.1, pair.2.paymentType)) (fun pair => pair.2.paymentValue)
      (weekdayRows tables row.dayOfWeek)| ≤ 1 / 100 := by
  rw [ordersByWeekday, List.mem_mergeSort] at member
  obtain ⟨pattern, inView, rfl⟩ := (mem_groupBy _ _ _ _).mp member
  obtain ⟨pair, joined, rfl⟩ := (mem_groupBy _ _ _ _).mp inView
  have nonempty : weekdayRows tables (weekday pair.1) ≠ [] :=
    List.ne_nil_of_mem (List.mem_filter.mpr ⟨joined, decide_eq_true rfl⟩)
  refine ⟨nonempty, ?_⟩
  change |roundTo 2 (average BusinessPattern.avgOrderValue ((mvBusinessPatterns tables).filter
    fun other => (other.dayOfWeek, other.dayName) =
      (weekday pair.1, dayName (weekday pair.1)))) - _| ≤ _
  rw [mvBusinessPatterns, filter_groupBy _ _ _ fun other => weekday other.1 = weekday pair.1]
  · apply abs_rolledCents_sub_le _ _ _ _ _ _ nonempty
    intro group rows
    rfl
  · intro other _
    exact decide_eq_decide.mpr (named_weekday_iff _ _)

/-- A payment type row averages the average payments of its weekdays. -/
theorem avgTransactionValue_near (row : PaymentTypeTotal)
    (member : row ∈ revenueByPaymentType tables) :
    paymentTypeRows tables row.paymentType ≠ [] ∧ |row.avgTransactionValue - averageOfGroups
      (fun pair => (weekday pair.1, pair.2.paymentType)) (fun pair => pair.2.paymentValue)
      (paymentTypeRows tables row.paymentType)| ≤ 1 / 100 := by
  rw [revenueByPaymentType, mem_orderByDesc] at member
  obtain ⟨pattern, inView, rfl⟩ := (mem_groupBy _ _ _ _).mp member
  obtain ⟨pair, joined, rfl⟩ := (mem_groupBy _ _ _ _).mp inView
  have nonempty : paymentTypeRows tables pair.2.paymentType ≠ [] :=
    List.ne_nil_of_mem (List.mem_filter.mpr ⟨joined, decide_eq_true rfl⟩)
  refine ⟨nonempty, ?_⟩
  change |roundTo 2 (average BusinessPattern.avgOrderValue ((mvBusinessPatterns tables).filter
    fun other => other.paymentType = pair.2.paymentType)) - _| ≤ _
  rw [mvBusinessPatterns, filter_groupBy _ _ _ fun other =>
    other.2.paymentType = pair.2.paymentType]
  · apply abs_rolledCents_sub_le _ _ _ _ _ _ nonempty
    intro group rows
    rfl
  · intro other _
    rfl

/-- Each joined row has a row of its weekday and of its payment type. -/
theorem exists_weekdayTotal (pair : OdsOrders × OdsPayments)
    (joined : pair ∈ ordersWithPayments tables) :
    ∃ row ∈ ordersByWeekday tables, row.dayOfWeek = weekday pair.1 :=
  ⟨_, List.mem_mergeSort.mpr ((mem_groupBy _ _ _ _).mpr
    ⟨_, (mem_groupBy _ _ _ _).mpr ⟨pair, joined, rfl⟩, rfl⟩), rfl⟩

theorem exists_paymentTypeTotal (pair : OdsOrders × OdsPayments)
    (joined : pair ∈ ordersWithPayments tables) :
    ∃ row ∈ revenueByPaymentType tables, row.paymentType = pair.2.paymentType :=
  ⟨_, (mem_orderByDesc _ _ _).mpr ((mem_groupBy _ _ _ _).mpr
    ⟨_, (mem_groupBy _ _ _ _).mpr ⟨pair, joined, rfl⟩, rfl⟩), rfl⟩

/-- What holds of the key of each row holds of a key that some row has. -/
theorem holds_of_filter {Row Key : Type*} [DecidableEq Key] {rows : List Row} {key : Row → Key}
    (holds : Key → Prop) (each : ∀ row ∈ rows, holds (key row)) {group : Key}
    (nonempty : (rows.filter fun row => key row = group) ≠ []) : holds group := by
  obtain ⟨row, member⟩ := List.exists_mem_of_ne_nil _ nonempty
  obtain ⟨inside, same⟩ := List.mem_filter.mp member
  rw [← of_decide_eq_true same]
  exact each row inside

theorem averagesRight_of_balanced (balanced : SizesBalanced tables) : AveragesRight tables where
  categories row member := by
    obtain ⟨nonempty, near⟩ := avgItemPrice_near tables row member
    apply near_average_of_balanced _ _ _ nonempty near
    exact holds_of_filter (fun group => categoryCovariance tables group = 0)
      balanced.categories nonempty
  weekdays row member := by
    obtain ⟨nonempty, near⟩ := avgOrderValue_near tables row member
    apply near_average_of_balanced _ _ _ nonempty near
    exact holds_of_filter (fun day => weekdayCovariance tables day = 0)
      balanced.weekdays nonempty
  paymentTypes row member := by
    obtain ⟨nonempty, near⟩ := avgTransactionValue_near tables row member
    apply near_average_of_balanced _ _ _ nonempty near
    exact holds_of_filter (fun paymentType =>
      paymentTypeCovariance tables paymentType = 0)
      balanced.paymentTypes nonempty

theorem nearlyBalanced_of_right (right : AveragesRight tables) : SizesNearlyBalanced tables := by
  have twoCents : (1 : ℚ) / 50 = 2 * (1 / 100) := by norm_num
  constructor
  case categories =>
    intro line joined
    obtain ⟨row, member, same⟩ := exists_categoryTotal tables _ line joined rfl
    obtain ⟨nonempty, near⟩ := avgItemPrice_near tables row member
    rw [← same, twoCents]
    exact abs_sizeCovariance_le _ _ _ nonempty near (right.categories row member)
  case weekdays =>
    intro pair joined
    obtain ⟨row, member, same⟩ := exists_weekdayTotal tables pair joined
    obtain ⟨nonempty, near⟩ := avgOrderValue_near tables row member
    rw [← same, twoCents]
    exact abs_sizeCovariance_le _ _ _ nonempty near (right.weekdays row member)
  case paymentTypes =>
    intro pair joined
    obtain ⟨row, member, same⟩ := exists_paymentTypeTotal tables pair joined
    obtain ⟨nonempty, near⟩ := avgTransactionValue_near tables row member
    rw [← same, twoCents]
    exact abs_sizeCovariance_le _ _ _ nonempty near (right.paymentTypes row member)

/-- The rolled averages are right when size and average are uncorrelated in each group, and right
averages leave a covariance of at most two cents for each row. -/
theorem rolled_averages_right : (SizesBalanced tables → AveragesRight tables) ∧
    (AveragesRight tables → SizesNearlyBalanced tables) :=
  ⟨averagesRight_of_balanced tables, nearlyBalanced_of_right tables⟩

/-- One lamp and two sofas of another size have one average price. -/
def evenNames : CleanTables where
  orders := twoDelivered
  orderItems := ⟨[⟨"o1", "p1", 30, 32, false⟩, ⟨"o1", "p2", 20, 22, false⟩,
    ⟨"o2", "p2", 40, 42, false⟩], by decide⟩
  products := lampAndSofa
  payments := ⟨[⟨"o1", "voucher", 54, false⟩, ⟨"o2", "credit_card", 42, false⟩], by decide⟩

theorem evenNames_right : AveragesRight evenNames ∧ SizesNearlyBalanced evenNames := by
  have balanced : SizesBalanced evenNames :=
    ⟨by decide +kernel, by decide +kernel, by decide +kernel⟩
  have right := (rolled_averages_right evenNames).1 balanced
  exact ⟨right, (rolled_averages_right evenNames).2 right⟩

/-- A lamp for 10 and three sofas for 50 each are paid by card, and three more orders of the lamp's
day are paid by voucher. -/
def unevenParts : CleanTables where
  orders := ⟨[⟨"o1", "c1", "delivered", 0, none, none, false⟩,
    ⟨"o2", "c1", "delivered", 0, none, none, false⟩,
    ⟨"o3", "c1", "delivered", 0, none, none, false⟩,
    ⟨"o4", "c1", "delivered", 0, none, none, false⟩,
    ⟨"o5", "c1", "delivered", dayMillis, none, none, false⟩,
    ⟨"o6", "c1", "delivered", dayMillis, none, none, false⟩,
    ⟨"o7", "c1", "delivered", dayMillis, none, none, false⟩], by decide⟩
  orderItems := ⟨[⟨"o1", "p1", 10, 10, false⟩, ⟨"o5", "p2", 50, 50, false⟩,
    ⟨"o6", "p2", 50, 50, false⟩, ⟨"o7", "p2", 50, 50, false⟩], by decide⟩
  products := lampAndSofa
  payments := ⟨[⟨"o1", "credit_card", 10, false⟩, ⟨"o2", "voucher", 50, false⟩,
    ⟨"o3", "voucher", 50, false⟩, ⟨"o4", "voucher", 50, false⟩,
    ⟨"o5", "credit_card", 50, false⟩, ⟨"o6", "credit_card", 50, false⟩,
    ⟨"o7", "credit_card", 50, false⟩], by decide⟩

/-- Each query shows 30 for one row of 10 and three rows of 50, whose mean is 40. -/
theorem uneven_parts_averaged :
    (revenueByCategory unevenParts).map CategoryTotal.avgItemPrice = [30] ∧
    average (fun line => line.1.2.price) (groupRows unevenParts "Home") = 40 ∧
    (∃ row ∈ ordersByWeekday unevenParts, row.dayOfWeek = 5 ∧ row.avgOrderValue = 30) ∧
    average (fun pair => pair.2.paymentValue) (weekdayRows unevenParts 5) = 40 ∧
    (∃ row ∈ revenueByPaymentType unevenParts,
      row.paymentType = "credit_card" ∧ row.avgTransactionValue = 30) ∧
    average (fun pair => pair.2.paymentValue) (paymentTypeRows unevenParts "credit_card") = 40 ∧
    ¬ AveragesRight unevenParts := by
  simp only [ordersByWeekday, revenueByPaymentType, mem_orderByDesc, List.mem_mergeSort]
  refine ⟨by decide +kernel, by decide +kernel, by decide +kernel, by decide +kernel,
    by decide +kernel, by decide +kernel, ?_⟩
  intro right
  have near := (nearlyBalanced_of_right unevenParts right).categories
  exact absurd near (by decide +kernel)

end Queries

end OdsPipeline
