import OdsPipeline.Construction.MaterializedViews
import OdsPipeline.Library.Rollup

namespace OdsPipeline
open Library StarRocks MaterializedViews

/-- A column rounded to cents is off by at most half a cent. -/
theorem abs_cents_sub_le (value : ℚ) : |roundTo 2 value - value| ≤ 5 / 1000 := by
  have half := abs_roundTo_sub_le 2 value
  norm_num at half ⊢
  exact half

section Payments
variable (tables : CleanTables)

/-- Each payment view counts every joined payment once. -/
theorem sum_dailyOrders : ((mvRealtimeDailyMetrics tables).map DailyMetrics.dailyOrders).sum =
    (ordersWithPayments tables).length := by
  rw [mvRealtimeDailyMetrics]
  apply sum_groupBy_sizes
  intro group rows
  rfl

theorem sum_totalOrders : ((mvCustomerLifetimeAnalysis tables).map
    CustomerLifetime.totalOrders).sum = (ordersWithPayments tables).length := by
  rw [mvCustomerLifetimeAnalysis]
  apply sum_groupBy_sizes
  intro group rows
  rfl

theorem sum_orderCount : ((mvBusinessPatterns tables).map BusinessPattern.orderCount).sum =
    (ordersWithPayments tables).length := by
  rw [mvBusinessPatterns]
  apply sum_groupBy_sizes
  intro group rows
  rfl

theorem sum_paymentCount : ((mvBusinessPatterns tables).map BusinessPattern.paymentCount).sum =
    (ordersWithPayments tables).length := by
  rw [mvBusinessPatterns]
  apply sum_groupBy_sizes
  intro group rows
  rfl

/-- The dates of one weekday count the joined payments of this weekday. -/
theorem sum_dailyOrders_weekday (day : Int) :
    (((mvRealtimeDailyMetrics tables).filter fun metrics =>
        dayOfWeek metrics.orderDate = day).map DailyMetrics.dailyOrders).sum =
      ((ordersWithPayments tables).filter fun row => weekday row.1 = day).length := by
  rw [mvRealtimeDailyMetrics, sum_groupBy _ _ _ (fun _ => 1) _ fun row => weekday row.1 = day,
    sum_map_one]
  · intro group rows
    rw [sum_map_one]
  · intro row _
    rfl

theorem sum_orderCount_weekday (day : Int) :
    (((mvBusinessPatterns tables).filter fun pattern => pattern.dayOfWeek = day).map
        BusinessPattern.orderCount).sum =
      ((ordersWithPayments tables).filter fun row => weekday row.1 = day).length := by
  rw [mvBusinessPatterns, sum_groupBy _ _ _ (fun _ => 1) _ fun row => weekday row.1 = day,
    sum_map_one]
  · intro group rows
    rw [sum_map_one]
  · intro row _
    rfl

/-- The value of all live payments of live orders. -/
def paymentTotal : ℚ := sumOf (fun row => row.2.paymentValue) (ordersWithPayments tables)

theorem abs_dailyRevenue_sub_le :
    |sumOf DailyMetrics.dailyRevenue (mvRealtimeDailyMetrics tables) - paymentTotal tables| ≤
      5 / 1000 * (mvRealtimeDailyMetrics tables).length := by
  rw [mvRealtimeDailyMetrics, paymentTotal]
  apply abs_sum_groupBy_sub_le
  intro group rows
  exact abs_cents_sub_le _

theorem abs_totalSpent_sub_le :
    |sumOf CustomerLifetime.totalSpent (mvCustomerLifetimeAnalysis tables) -
        paymentTotal tables| ≤
      5 / 1000 * (mvCustomerLifetimeAnalysis tables).length := by
  rw [mvCustomerLifetimeAnalysis, paymentTotal]
  apply abs_sum_groupBy_sub_le
  intro group rows
  exact abs_cents_sub_le _

theorem abs_paymentTotal_sub_le :
    |sumOf BusinessPattern.paymentTotal (mvBusinessPatterns tables) - paymentTotal tables| ≤
      5 / 1000 * (mvBusinessPatterns tables).length := by
  rw [mvBusinessPatterns, paymentTotal]
  apply abs_sum_groupBy_sub_le
  intro group rows
  exact abs_cents_sub_le _

end Payments

section Products
variable (tables : CleanTables)

theorem sum_performance_orderCount : ((mvRealtimeProductPerformance tables).map
    ProductPerformance.orderCount).sum = (productsWithOrders tables).length := by
  rw [mvRealtimeProductPerformance]
  apply sum_groupBy_sizes
  intro group rows
  rfl

theorem sum_category_totalOrders : ((mvCategoryRevenueAnalysis tables).map
    CategoryRevenue.totalOrders).sum = (productsWithOrders tables).length := by
  rw [mvCategoryRevenueAnalysis]
  apply sum_groupBy_sizes
  intro group rows
  rfl

/-- The value of all live items of live products in live orders. -/
def itemTotal : ℚ := sumOf (fun row => row.1.2.totalItemValue) (productsWithOrders tables)

theorem abs_totalValue_sub_le :
    |sumOf ProductPerformance.totalValue (mvRealtimeProductPerformance tables) -
        itemTotal tables| ≤
      5 / 1000 * (mvRealtimeProductPerformance tables).length := by
  rw [mvRealtimeProductPerformance, itemTotal]
  apply abs_sum_groupBy_sub_le
  intro group rows
  exact abs_cents_sub_le _

theorem abs_totalRevenue_sub_le :
    |sumOf CategoryRevenue.totalRevenue (mvCategoryRevenueAnalysis tables) - itemTotal tables| ≤
      5 / 1000 * (mvCategoryRevenueAnalysis tables).length := by
  rw [mvCategoryRevenueAnalysis, itemTotal]
  apply abs_sum_groupBy_sub_le
  intro group rows
  exact abs_cents_sub_le _

end Products

/-- Two totals near one exact total are near each other. -/
theorem abs_totals_sub_le {first second exact rate rows others : ℚ}
    (near : |first - exact| ≤ rate * rows) (close : |second - exact| ≤ rate * others) :
    |first - second| ≤ rate * (rows + others) := by
  have left := abs_le.mp near
  have right := abs_le.mp close
  rw [mul_add, abs_le]
  constructor <;> linarith

/-- The views count the same joined rows and add up the same values, up to their rounding. -/
structure ViewsAgree (tables : CleanTables) : Prop where
  lifetimeOrders : ((mvRealtimeDailyMetrics tables).map DailyMetrics.dailyOrders).sum =
    ((mvCustomerLifetimeAnalysis tables).map CustomerLifetime.totalOrders).sum
  patternOrders : ((mvRealtimeDailyMetrics tables).map DailyMetrics.dailyOrders).sum =
    ((mvBusinessPatterns tables).map BusinessPattern.orderCount).sum
  patternPayments : ((mvRealtimeDailyMetrics tables).map DailyMetrics.dailyOrders).sum =
    ((mvBusinessPatterns tables).map BusinessPattern.paymentCount).sum
  weekdayOrders : ∀ day, (((mvRealtimeDailyMetrics tables).filter fun metrics =>
      dayOfWeek metrics.orderDate = day).map DailyMetrics.dailyOrders).sum =
    (((mvBusinessPatterns tables).filter fun pattern => pattern.dayOfWeek = day).map
      BusinessPattern.orderCount).sum
  productOrders : ((mvRealtimeProductPerformance tables).map ProductPerformance.orderCount).sum =
    ((mvCategoryRevenueAnalysis tables).map CategoryRevenue.totalOrders).sum
  dailyLifetime : |sumOf DailyMetrics.dailyRevenue (mvRealtimeDailyMetrics tables) -
      sumOf CustomerLifetime.totalSpent (mvCustomerLifetimeAnalysis tables)| ≤
    5 / 1000 * ((mvRealtimeDailyMetrics tables).length +
      (mvCustomerLifetimeAnalysis tables).length)
  dailyPatterns : |sumOf DailyMetrics.dailyRevenue (mvRealtimeDailyMetrics tables) -
      sumOf BusinessPattern.paymentTotal (mvBusinessPatterns tables)| ≤
    5 / 1000 * ((mvRealtimeDailyMetrics tables).length + (mvBusinessPatterns tables).length)
  lifetimePatterns : |sumOf CustomerLifetime.totalSpent (mvCustomerLifetimeAnalysis tables) -
      sumOf BusinessPattern.paymentTotal (mvBusinessPatterns tables)| ≤
    5 / 1000 * ((mvCustomerLifetimeAnalysis tables).length + (mvBusinessPatterns tables).length)
  products : |sumOf ProductPerformance.totalValue (mvRealtimeProductPerformance tables) -
      sumOf CategoryRevenue.totalRevenue (mvCategoryRevenueAnalysis tables)| ≤
    5 / 1000 * ((mvRealtimeProductPerformance tables).length +
      (mvCategoryRevenueAnalysis tables).length)

/-- Every state of the clean tables gives views that agree. -/
theorem views_agree (tables : CleanTables) : ViewsAgree tables where
  lifetimeOrders := (sum_dailyOrders tables).trans (sum_totalOrders tables).symm
  patternOrders := (sum_dailyOrders tables).trans (sum_orderCount tables).symm
  patternPayments := (sum_dailyOrders tables).trans (sum_paymentCount tables).symm
  weekdayOrders day :=
    (sum_dailyOrders_weekday tables day).trans (sum_orderCount_weekday tables day).symm
  productOrders := (sum_performance_orderCount tables).trans (sum_category_totalOrders tables).symm
  dailyLifetime := abs_totals_sub_le (abs_dailyRevenue_sub_le tables) (abs_totalSpent_sub_le tables)
  dailyPatterns := abs_totals_sub_le (abs_dailyRevenue_sub_le tables)
    (abs_paymentTotal_sub_le tables)
  lifetimePatterns := abs_totals_sub_le (abs_totalSpent_sub_le tables)
    (abs_paymentTotal_sub_le tables)
  products := abs_totals_sub_le (abs_totalValue_sub_le tables) (abs_totalRevenue_sub_le tables)

end OdsPipeline
