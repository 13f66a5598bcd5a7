import OdsPipeline.Library.Percentage
import OdsPipeline.Library.Rollup
import OdsPipeline.Library.RowOrder
import OdsPipeline.Proof.ValidTables
import OdsPipeline.Construction.Dashboards

namespace OdsPipeline
open Library StarRocks MaterializedViews PeriodicDashboard

section Totals
variable (tables : CleanTables)

/-- The exact total of the weekday and the payment type of a joined row. -/
def patternTotal (row : OdsOrders × OdsPayments) : ℚ :=
  sumOf (fun other => other.2.paymentValue) ((ordersWithPayments tables).filter fun other =>
    (weekday other.1, other.2.paymentType) = (weekday row.1, row.2.paymentType))

/-- The divisor of the shares. -/
def viewTotal : ℚ := sumOf BusinessPattern.paymentTotal (mvBusinessPatterns tables)

theorem patternTotal_nonneg (valid : PaymentsValid tables) (row : OdsOrders × OdsPayments) :
    0 ≤ patternTotal tables row := by
  apply List.sum_nonneg
  intro amount listed
  obtain ⟨other, inside, rfl⟩ := List.mem_map.mp listed
  have pair := (mem_join _ _ _ _).mp (List.mem_of_mem_filter (List.mem_of_mem_filter inside))
  exact (valid other.2 pair.2.1).1.le

theorem mem_mvBusinessPatterns (pattern : BusinessPattern)
    (member : pattern ∈ mvBusinessPatterns tables) :
    ∃ row ∈ ordersWithPayments tables, pattern.paymentTotal = roundTo 2 (patternTotal tables row) := by
  obtain ⟨row, joined, rfl⟩ := (mem_groupBy _ _ _ _).mp member
  exact ⟨row, joined, rfl⟩

theorem paymentTotal_nonneg (valid : PaymentsValid tables) (pattern : BusinessPattern)
    (member : pattern ∈ mvBusinessPatterns tables) : 0 ≤ pattern.paymentTotal := by
  obtain ⟨row, -, rounded⟩ := mem_mvBusinessPatterns tables pattern member
  rw [rounded]
  exact roundTo_nonneg 2 (patternTotal_nonneg tables valid row)

/-- The divisor is not zero exactly when some exact total reaches half a cent. -/
theorem viewTotal_ne_zero_iff (valid : PaymentsValid tables) : viewTotal tables ≠ 0 ↔
    ∃ row ∈ ordersWithPayments tables, 1 / 200 ≤ patternTotal tables row := by
  have cents : (1 : ℚ) / 2 / 10 ^ 2 = 1 / 200 := by norm_num
  have nonneg : ∀ amount ∈ (mvBusinessPatterns tables).map BusinessPattern.paymentTotal,
      0 ≤ amount := by
    rw [List.forall_mem_map]
    exact paymentTotal_nonneg tables valid
  constructor
  · intro total
    by_contra small
    apply total
    apply List.sum_eq_zero
    rw [List.forall_mem_map]
    intro pattern member
    obtain ⟨row, joined, rounded⟩ := mem_mvBusinessPatterns tables pattern member
    have below : ¬ 0 < roundTo 2 (patternTotal tables row) := by
      rw [roundTo_pos_iff, cents]
      intro reached
      exact small ⟨row, joined, reached⟩
    rw [← rounded, not_lt] at below
    exact le_antisymm below (paymentTotal_nonneg tables valid pattern member)
  · rintro ⟨row, joined, reached⟩ zero
    rw [← cents, ← roundTo_pos_iff] at reached
    have listed : roundTo 2 (patternTotal tables row) ∈
        (mvBusinessPatterns tables).map BusinessPattern.paymentTotal :=
      List.mem_map.mpr ⟨_, (mem_groupBy _ _ _ _).mpr ⟨row, joined, rfl⟩, rfl⟩
    have none := List.all_zero_of_le_zero_le_of_sum_eq_zero nonneg zero listed
    exact reached.ne' none

end Totals

section Query
variable (tables : CleanTables)

/-- Each share is a percentage, and the shares add up to 100 up to their rounding. -/
structure SharesDistributed : Prop where
  percentages : ∀ row ∈ revenueByPaymentType tables,
    ∃ share, row.percentageShare = some share ∧ 0 ≤ share ∧ share ≤ 100
  total : ∃ total, sumColumn PaymentTypeTotal.percentageShare (revenueByPaymentType tables) =
    some total ∧ |total - 100| ≤ 5 / 1000 * (revenueByPaymentType tables).length

/-- The types that the view shows. -/
def shownTypes : List String :=
  ((mvBusinessPatterns tables).map BusinessPattern.paymentType).dedup

/-- The exact share of a type in the view. -/
def typeShare (paymentType : String) : ℚ :=
  groupShare BusinessPattern.paymentType BusinessPattern.paymentTotal (mvBusinessPatterns tables)
    paymentType

theorem length_revenueByPaymentType :
    (revenueByPaymentType tables).length = (shownTypes tables).length := by
  rw [revenueByPaymentType, orderByDesc, List.length_mergeSort, groupBy, List.length_map, shownTypes]

/-- A share divides the total of its type by the total of all types. -/
theorem percentageShare_eq (row : PaymentTypeTotal) (member : row ∈ revenueByPaymentType tables) :
    row.percentageShare = if viewTotal tables = 0 then none
      else some (roundTo 2 (typeShare tables row.paymentType)) := by
  rw [revenueByPaymentType, mem_orderByDesc] at member
  obtain ⟨pattern, -, rfl⟩ := (mem_groupBy _ _ _ _).mp member
  change (divide _ (viewTotal tables)).map (roundTo 2) = _
  rw [divide]
  split
  · rfl
  · rfl

/-- Without a total each share is NULL. -/
theorem not_sharesDistributed (zero : viewTotal tables = 0) : ¬ SharesDistributed tables := by
  intro distributed
  have absent : (revenueByPaymentType tables).filterMap PaymentTypeTotal.percentageShare = [] := by
    rw [List.filterMap_eq_nil_iff]
    intro row member
    rw [percentageShare_eq tables row member, if_pos zero]
  obtain ⟨total, known, -⟩ := distributed.total
  rw [sumColumn, absent] at known
  cases known

/-- With a total the shares are the rounded shares of the types. -/
theorem sum_percentageShare (total : viewTotal tables ≠ 0) :
    sumColumn PaymentTypeTotal.percentageShare (revenueByPaymentType tables) =
      some (sumOf (fun paymentType => roundTo 2 (typeShare tables paymentType)) (shownTypes tables)) := by
  have shared : (fun paymentType => (divide (sumOf BusinessPattern.paymentTotal
      ((mvBusinessPatterns tables).filter fun pattern => pattern.paymentType = paymentType) * 100)
        (viewTotal tables)).map (roundTo 2)) =
      fun paymentType => some (roundTo 2 (typeShare tables paymentType)) := by
    funext paymentType
    rw [divide, if_neg total]
    rfl
  have present : shownTypes tables ≠ [] := by
    intro none
    apply total
    rw [shownTypes, List.dedup_eq_nil, List.map_eq_nil_iff] at none
    rw [viewTotal, none]
    rfl
  rw [revenueByPaymentType, orderByDesc, sumColumn_perm _ (List.mergeSort_perm _ _), groupBy,
    sumColumn_map]
  change sumColumn (fun paymentType => (divide (sumOf BusinessPattern.paymentTotal
    ((mvBusinessPatterns tables).filter fun pattern => pattern.paymentType = paymentType) * 100)
      (viewTotal tables)).map (roundTo 2)) (shownTypes tables) = _
  rw [shared, sumColumn_some, if_neg present]

theorem typeShare_mem (valid : PaymentsValid tables) (paymentType : String) :
    0 ≤ typeShare tables paymentType ∧ typeShare tables paymentType ≤ 100 := by
  have nonneg := paymentTotal_nonneg tables valid
  apply percent_mem
  · apply List.sum_nonneg
    rw [List.forall_mem_map]
    intro pattern member
    exact nonneg pattern (List.mem_of_mem_filter member)
  · exact sumOf_le_of_sublist List.filter_sublist _ nonneg

theorem sharesDistributed_of_total (valid : PaymentsValid tables) (total : viewTotal tables ≠ 0) :
    SharesDistributed tables := by
  constructor
  case percentages =>
    intro row member
    have bounds := typeShare_mem tables valid row.paymentType
    rw [percentageShare_eq tables row member, if_neg total]
    exact ⟨_, rfl, roundTo_mem_percent 2 bounds.1 bounds.2⟩
  case total =>
    have halfCent : (1 : ℚ) / 2 / 10 ^ 2 = 5 / 1000 := by norm_num
    refine ⟨_, sum_percentageShare tables total, ?_⟩
    rw [length_revenueByPaymentType, ← halfCent]
    exact abs_sum_rounded_shares_sub_le _ _ _ 2 total

/-- The shares are a distribution exactly when some weekday and payment type have a total of half a
cent or more. -/
theorem shares_distributed_iff (valid : PaymentsValid tables) : SharesDistributed tables ↔
    ∃ row ∈ ordersWithPayments tables, 1 / 200 ≤ patternTotal tables row := by
  rw [← viewTotal_ne_zero_iff tables valid]
  constructor
  · intro distributed zero
    exact not_sharesDistributed tables zero distributed
  · exact sharesDistributed_of_total tables valid

end Query

/-- One order is paid with ten units. -/
def paidTen : CleanTables where
  orders := oneDelivered
  orderItems := KeyedTable.empty _
  products := KeyedTable.empty _
  payments := ⟨[⟨"o1", "voucher", 10, false⟩], by decide⟩

theorem shares_distributed_on_paidTen : PaymentsValid paidTen ∧ (SharesDistributed paidTen ↔
    ∃ row ∈ ordersWithPayments paidTen, 1 / 200 ≤ patternTotal paidTen row) := by
  have valid : PaymentsValid paidTen := by decide
  exact ⟨valid, shares_distributed_iff paidTen valid⟩

/-- One order is paid with four tenths of a cent. -/
def paidTooLittle : CleanTables where
  orders := oneDelivered
  orderItems := KeyedTable.empty _
  products := KeyedTable.empty _
  payments := ⟨[⟨"o1", "voucher", 4 / 1000, false⟩], by decide⟩

/-- The view rounds the payment to zero, and the share of its type is NULL. -/
theorem paid_too_little_unshared :
    PaymentsValid paidTooLittle ∧ ordersWithPayments paidTooLittle ≠ [] ∧
      (∃ row ∈ revenueByPaymentType paidTooLittle,
        row.paymentType = "voucher" ∧ row.percentageShare = none) ∧
      ¬ SharesDistributed paidTooLittle := by
  have zero : viewTotal paidTooLittle = 0 := by decide +kernel
  have unshared := not_sharesDistributed paidTooLittle zero
  refine ⟨by decide +kernel, by decide, ?_, unshared⟩
  simp only [revenueByPaymentType, mem_orderByDesc]
  decide +kernel

end OdsPipeline
