import OdsPipeline.Proof.GeneratedViews
import OdsPipeline.Proof.Segments

namespace OdsPipeline
open Library SqlQueries Postgres OdsETLJob DataGenerator StarRocks MaterializedViews

section Columns
variable {Value : Type} [Zero Value]

/-- What the lifetime view shows for a customer. -/
def lifetimeColumn (tables : CleanTables) (customer : String) (column : CustomerLifetime → Value) :
    Value :=
  columnOf (mvCustomerLifetimeAnalysis tables) CustomerLifetime.customerId customer column

/-- What the pattern view shows for a weekday and a payment type. -/
def patternColumn (tables : CleanTables) (group : Int × String) (column : BusinessPattern → Value) :
    Value :=
  columnOf (mvBusinessPatterns tables) (fun row => (row.dayOfWeek, row.paymentType)) group column

theorem lifetimeColumn_eq (tables : CleanTables) (customer : String)
    (column : CustomerLifetime → Value) (total : List (OdsOrders × OdsPayments) → Value)
    {aggregate : String → List (OdsOrders × OdsPayments) → CustomerLifetime}
    (view : mvCustomerLifetimeAnalysis tables =
      groupBy (fun row => row.1.customerId) aggregate (ordersWithPayments tables))
    (named : ∀ group rows, (aggregate group rows).customerId = group)
    (measured : ∀ group rows, column (aggregate group rows) = total rows) (nothing : total [] = 0) :
    lifetimeColumn tables customer column =
      total ((ordersWithPayments tables).filter fun row => row.1.customerId = customer) := by
  rw [lifetimeColumn, view]
  exact columnOf_groupBy _ aggregate _ _ named column total measured nothing customer

theorem patternColumn_eq (tables : CleanTables) (group : Int × String)
    (column : BusinessPattern → Value) (total : List (OdsOrders × OdsPayments) → Value)
    {aggregate : Int × String → List (OdsOrders × OdsPayments) → BusinessPattern}
    (view : mvBusinessPatterns tables =
      groupBy (fun row => (weekday row.1, row.2.paymentType)) aggregate (ordersWithPayments tables))
    (named : ∀ group rows,
      ((aggregate group rows).dayOfWeek, (aggregate group rows).paymentType) = group)
    (measured : ∀ group rows, column (aggregate group rows) = total rows) (nothing : total [] = 0) :
    patternColumn tables group column = total ((ordersWithPayments tables).filter fun row =>
      (weekday row.1, row.2.paymentType) = group) := by
  rw [patternColumn, view]
  exact columnOf_groupBy _ aggregate _ _ named column total measured nothing group

end Columns

section Groups

def DataGenerator.Sale.customer (sale : Sale) : Option String :=
  toText sale.purchase.order.customerId

/-- The weekday and the payment type of a sale. -/
def DataGenerator.Sale.pattern (sale : Sale) : Option (Int × String) := do
  let time ← sale.purchase.order.orderPurchaseTimestamp
  let paymentType ← toText sale.purchase.payment.paymentType
  return (dayOfWeek time.date, paymentType)

theorem groupsSales_customer : GroupsSales (fun row => row.1.customerId) Sale.customer :=
  fun _ _ shows => shows.customer

theorem groupsSales_pattern :
    GroupsSales (fun row => (weekday row.1, row.2.paymentType)) Sale.pattern := by
  intro sale row shows
  rw [Sale.pattern, shows.purchased, shows.type]
  rfl

/-- No sale is paid with a negative value. -/
theorem paidBy_nonneg (sales : List Sale) : 0 ≤ paidBy sales := by
  apply List.sum_nonneg
  intro value member
  obtain ⟨payment, inside, paid⟩ := List.mem_filterMap.mp member
  obtain ⟨sale, -, rfl⟩ := List.mem_map.mp inside
  obtain ⟨other, isValue, enough, -⟩ := sale.purchase.paymentValue
  rw [isValue, Option.some.injEq] at paid
  rw [← paid]
  exact (by norm_num : (0 : ℚ) ≤ 15).trans enough

end Groups

section Growth

/-- The lifetime view counts the sales of a customer once more than before. -/
structure CustomerGrowth (before after : CleanTables) (sales : List Sale) (customer : String) :
    Prop where
  orders : lifetimeColumn after customer CustomerLifetime.totalOrders =
    lifetimeColumn before customer CustomerLifetime.totalOrders +
      (salesIn Sale.customer customer sales).length
  spent : |lifetimeColumn after customer CustomerLifetime.totalSpent -
      (lifetimeColumn before customer CustomerLifetime.totalSpent +
        paidBy (salesIn Sale.customer customer sales))| ≤ 1 / 100

/-- The pattern view counts the sales of a weekday and a payment type once more than before. -/
structure PatternGrowth (before after : CleanTables) (sales : List Sale) (group : Int × String) :
    Prop where
  orders : patternColumn after group BusinessPattern.orderCount =
    patternColumn before group BusinessPattern.orderCount +
      (salesIn Sale.pattern group sales).length
  payments : patternColumn after group BusinessPattern.paymentCount =
    patternColumn before group BusinessPattern.paymentCount +
      (salesIn Sale.pattern group sales).length
  total : |patternColumn after group BusinessPattern.paymentTotal -
      (patternColumn before group BusinessPattern.paymentTotal +
        paidBy (salesIn Sale.pattern group sales))| ≤ 1 / 100

/-- A customer keeps the first order or gets an earlier one, keeps the last order or gets a later
one, and does not fall to a lower segment. -/
structure KeepsCustomer (old new : CustomerLifetime) : Prop where
  customer : new.customerId = old.customerId
  orders : old.totalOrders ≤ new.totalOrders
  first : ∀ time ∈ old.firstOrderDate, ∃ earlier ∈ new.firstOrderDate, earlier ≤ time
  last : ∀ time ∈ old.lastOrderDate, ∃ later ∈ new.lastOrderDate, time ≤ later
  segment : segmentRank old.customerSegment ≤ segmentRank new.customerSegment

variable {before after : CleanTables} {sales : List Sale}

theorem customerGrowth_of_grown (grown : (ordersWithPayments after).Perm
    (ordersWithPayments before ++ sales.filterMap Sale.joined)) (customer : String) :
    CustomerGrowth before after sales customer := by
  constructor
  case orders =>
    have shown (tables : CleanTables) :=
      lifetimeColumn_eq tables customer CustomerLifetime.totalOrders List.length rfl
        (fun _ _ => rfl) (fun _ _ => rfl) rfl
    rw [shown, shown]
    exact length_grown grown groupsSales_customer customer
  case spent =>
    have shown (tables : CleanTables) : lifetimeColumn tables customer CustomerLifetime.totalSpent =
        roundTo 2 (sumOf (fun row => row.2.paymentValue) ((ordersWithPayments tables).filter
          fun row => row.1.customerId = customer)) := by
      apply lifetimeColumn_eq tables customer CustomerLifetime.totalSpent
        (fun rows => roundTo 2 (sumOf (fun row => row.2.paymentValue) rows)) rfl
      · intro group rows
        rfl
      · intro group rows
        rfl
      · exact roundTo_sumOf_nil
    rw [shown, shown]
    exact roundTo_grown grown groupsSales_customer customer

theorem patternGrowth_of_grown (grown : (ordersWithPayments after).Perm
    (ordersWithPayments before ++ sales.filterMap Sale.joined)) (group : Int × String) :
    PatternGrowth before after sales group := by
  constructor
  case orders =>
    have shown (tables : CleanTables) :=
      patternColumn_eq tables group BusinessPattern.orderCount List.length rfl
        (fun _ _ => rfl) (fun _ _ => rfl) rfl
    rw [shown, shown]
    exact length_grown grown groupsSales_pattern group
  case payments =>
    have shown (tables : CleanTables) :=
      patternColumn_eq tables group BusinessPattern.paymentCount List.length rfl
        (fun _ _ => rfl) (fun _ _ => rfl) rfl
    rw [shown, shown]
    exact length_grown grown groupsSales_pattern group
  case total =>
    have shown (tables : CleanTables) : patternColumn tables group BusinessPattern.paymentTotal =
        roundTo 2 (sumOf (fun row => row.2.paymentValue) ((ordersWithPayments tables).filter
          fun row => (weekday row.1, row.2.paymentType) = group)) := by
      apply patternColumn_eq tables group BusinessPattern.paymentTotal
        (fun rows => roundTo 2 (sumOf (fun row => row.2.paymentValue) rows)) rfl
      · intro group rows
        rfl
      · intro group rows
        rfl
      · exact roundTo_sumOf_nil
    rw [shown, shown]
    exact roundTo_grown grown groupsSales_pattern group

/-- The least of some times is not after any of them. -/
theorem exists_min?_le {times : List Timestamp} {time : Timestamp} (member : time ∈ times) :
    ∃ earlier ∈ times.min?, earlier ≤ time := by
  cases least : times.min? with
  | none =>
      rw [List.min?_eq_none_iff.mp least] at member
      cases member
  | some earlier => exact ⟨earlier, rfl, (List.min?_eq_some_iff.mp least).2 time member⟩

theorem exists_le_max? {times : List Timestamp} {time : Timestamp} (member : time ∈ times) :
    ∃ later ∈ times.max?, time ≤ later := by
  cases largest : times.max? with
  | none =>
      rw [List.max?_eq_none_iff.mp largest] at member
      cases member
  | some later => exact ⟨later, rfl, (List.max?_eq_some_iff.mp largest).2 time member⟩

theorem keepsCustomer_of_grown (grown : (ordersWithPayments after).Perm
    (ordersWithPayments before ++ sales.filterMap Sale.joined))
    (old : CustomerLifetime) (shown : old ∈ mvCustomerLifetimeAnalysis before) :
    ∃ new ∈ mvCustomerLifetimeAnalysis after, KeepsCustomer old new := by
  obtain ⟨row, stored, rfl⟩ := (mem_groupBy _ _ _ _).mp shown
  have kept := grown.mem_iff.mpr (List.mem_append_left _ stored)
  refine ⟨_, (mem_groupBy _ _ _ _).mpr ⟨row, kept, rfl⟩, ?_⟩
  have rows := filter_grown grown groupsSales_customer row.1.customerId
  have value := sumOf_grown grown groupsSales_customer row.1.customerId
  have positive := paidBy_nonneg (salesIn Sale.customer row.1.customerId sales)
  have more : sumOf (fun row => row.2.paymentValue)
      ((ordersWithPayments before).filter fun other => other.1.customerId = row.1.customerId) ≤
        sumOf (fun row => row.2.paymentValue)
          ((ordersWithPayments after).filter fun other =>
            other.1.customerId = row.1.customerId) := by
    rw [value]
    exact le_add_of_nonneg_right positive
  have times (time : Timestamp) (member : time ∈ ((ordersWithPayments before).filter fun other =>
      other.1.customerId = row.1.customerId).map fun other => other.1.orderPurchaseTimestamp) :
      time ∈ ((ordersWithPayments after).filter fun other =>
        other.1.customerId = row.1.customerId).map fun other => other.1.orderPurchaseTimestamp := by
    rw [(rows.map _).mem_iff, List.map_append]
    exact List.mem_append_left _ member
  constructor
  case customer => rfl
  case orders =>
    change List.length _ ≤ List.length _
    rw [length_grown grown groupsSales_customer]
    exact Nat.le_add_right _ _
  case first =>
    intro time least
    exact exists_min?_le (times time (List.min?_eq_some_iff.mp least).1)
  case last =>
    intro time largest
    exact exists_le_max? (times time (List.max?_eq_some_iff.mp largest).1)
  case segment =>
    change segmentRank (segmentOf _) ≤ segmentRank (segmentOf _)
    rw [segmentRank_segmentOf, segmentRank_segmentOf]
    exact reached_mono thresholds more

end Growth

/-- In every interleaving, once the orders job and the payments job have caught up, the lifetime
view and the pattern view have grown by exactly the new sales with a customer, and no customer has
fallen to a lower segment. -/
theorem GeneratedRun.sales_reach_customer_views {Thread : Type} [DecidableEq Thread]
    (run : GeneratedRun Thread) (delivery : SalesDelivery run.history) :
    ∃ sales, Sold sales run.start run.pool.committed ∧
      (∀ customer, CustomerGrowth run.startTables delivery.tables sales customer) ∧
      (∀ group, PatternGrowth run.startTables delivery.tables sales group) ∧
      ∀ old ∈ mvCustomerLifetimeAnalysis run.startTables,
        ∃ new ∈ mvCustomerLifetimeAnalysis delivery.tables, KeepsCustomer old new := by
  obtain ⟨sales, sold⟩ := run.exists_sales
  have grown := joined_perm sold delivery
  exact ⟨sales, sold, customerGrowth_of_grown grown, patternGrowth_of_grown grown,
    keepsCustomer_of_grown grown⟩

theorem shop_reaches_customer_views : ∃ sales, Sold sales shopSells.start shopPool.committed ∧
    (∀ customer, CustomerGrowth shopSells.startTables shopSales.tables sales customer) ∧
    (∀ group, PatternGrowth shopSells.startTables shopSales.tables sales group) ∧
    ∀ old ∈ mvCustomerLifetimeAnalysis shopSells.startTables,
      ∃ new ∈ mvCustomerLifetimeAnalysis shopSales.tables, KeepsCustomer old new :=
  shopSells.sales_reach_customer_views shopSales

end OdsPipeline
