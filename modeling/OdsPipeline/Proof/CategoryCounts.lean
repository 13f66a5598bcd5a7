import OdsPipeline.Proof.OrderCounts

namespace OdsPipeline
open Library StarRocks MaterializedViews RealtimeDashboard PeriodicDashboard

section Lines

/-- The live products joined with their live items. -/
def liveLines (tables : CleanTables) : List (OdsProducts × OdsOrderItems) :=
  (join tables.products.rows tables.orderItems.rows fun pr oi => pr.productId = oi.productId).filter
    fun line => !line.1.isDeleted && !line.2.isDeleted

/-- The live lines of an order whose product passes a test. -/
def linesOf (tables : CleanTables) (category : OdsProducts → Bool) (o : OdsOrders) :
    List (OdsProducts × OdsOrderItems) :=
  (liveLines tables).filter fun line => category line.1 && decide (line.2.orderId = o.orderId)

/-- The live orders with at least one live item of a live product that passes a test. -/
def ordersContaining (tables : CleanTables) (category : OdsProducts → Bool) : List OdsOrders :=
  tables.orders.rows.filter fun o => !o.isDeleted &&
    tables.orderItems.rows.any fun oi => !oi.isDeleted && decide (oi.orderId = o.orderId) &&
      tables.products.rows.any fun pr =>
        !pr.isDeleted && decide (pr.productId = oi.productId) && category pr

/-- The number of these orders that pass another test. -/
def orderCountOf (tables : CleanTables) (category : OdsProducts → Bool)
    (chosen : OdsOrders → Bool) : Nat :=
  ((ordersContaining tables category).filter chosen).length

/-- No live order has two live lines of one category group. -/
def OneLinePerGroup (tables : CleanTables) : Prop :=
  ∀ o ∈ tables.orders.rows, o.isDeleted = false →
    ∀ group, (linesOf tables (fun pr => pr.categoryGroup = group) o).length ≤ 1

/-- The joined rows with a chosen product and a chosen order. -/
def joinedLines (tables : CleanTables) (category : OdsProducts → Bool)
    (chosen : OdsOrders → Bool) : List ((OdsProducts × OdsOrderItems) × OdsOrders) :=
  (productsWithOrders tables).filter fun row => category row.1.1 && chosen row.2

theorem joinedLines_eq (tables : CleanTables) (category : OdsProducts → Bool)
    (chosen : OdsOrders → Bool) :
    joinedLines tables category chosen =
      join ((liveLines tables).filter fun line => category line.1)
        ((tables.orders.rows.filter fun o => !o.isDeleted).filter chosen)
        fun line o => line.2.orderId = o.orderId := by
  have live := filter_join
    (join tables.products.rows tables.orderItems.rows fun pr oi => pr.productId = oi.productId)
    tables.orders.rows (fun line o => line.2.orderId = o.orderId)
    (fun line => !line.1.isDeleted && !line.2.isDeleted) fun o => !o.isDeleted
  rw [joinedLines, productsWithOrders, live, ← liveLines]
  exact filter_join (liveLines tables) _ _ (fun line => category line.1) chosen

/-- An order has a live line of a category exactly when it has such an item and product. -/
theorem any_liveLines (tables : CleanTables) (category : OdsProducts → Bool) (o : OdsOrders) :
    (((liveLines tables).filter fun line => category line.1).any fun line =>
      line.2.orderId = o.orderId) =
    tables.orderItems.rows.any fun oi => !oi.isDeleted && decide (oi.orderId = o.orderId) &&
      tables.products.rows.any fun pr =>
        !pr.isDeleted && decide (pr.productId = oi.productId) && category pr := by
  rw [Bool.eq_iff_iff]
  simp only [liveLines, List.any_eq_true, List.mem_filter, mem_join, Bool.and_eq_true,
    Prod.exists]
  constructor
  · rintro ⟨pr, oi, ⟨⟨⟨product, item, same⟩, liveProduct, liveItem⟩, inside⟩, belongs⟩
    exact ⟨oi, item, ⟨liveItem, belongs⟩, pr, product, ⟨liveProduct, same⟩, inside⟩
  · rintro ⟨oi, item, ⟨liveItem, belongs⟩, pr, product, ⟨liveProduct, same⟩, inside⟩
    exact ⟨pr, oi, ⟨⟨⟨product, item, same⟩, liveProduct, liveItem⟩, inside⟩, belongs⟩

theorem ordersContaining_eq (tables : CleanTables) (category : OdsProducts → Bool) :
    ordersContaining tables category = tables.orders.rows.filter fun o => !o.isDeleted &&
      ((liveLines tables).filter fun line => category line.1).any fun line =>
        line.2.orderId = o.orderId := by
  simp only [any_liveLines, ordersContaining]

theorem linesOf_eq (tables : CleanTables) (category : OdsProducts → Bool) (o : OdsOrders) :
    linesOf tables category o = ((liveLines tables).filter fun line => category line.1).filter
      fun line => line.2.orderId = o.orderId := by
  simp only [linesOf, List.filter_filter, Bool.and_comm]

/-- The joined rows count the chosen orders exactly when each has one line of the category. -/
theorem length_joinedLines_eq_iff (tables : CleanTables) (category : OdsProducts → Bool)
    (chosen : OdsOrders → Bool) :
    (joinedLines tables category chosen).length = orderCountOf tables category chosen ↔
      ∀ o ∈ tables.orders.rows, o.isDeleted = false → chosen o = true →
        (linesOf tables category o).length ≤ 1 := by
  rw [joinedLines_eq, length_join_comm, orderCountOf, ordersContaining_eq,
    length_join_filtered_eq_iff]
  simp only [linesOf_eq, Bool.not_eq_true']

/-- Each order that contains a category stands in a joined row of the category. -/
theorem exists_joinedLine (tables : CleanTables) (category : OdsProducts → Bool) (o : OdsOrders)
    (containing : o ∈ ordersContaining tables category) :
    ∃ row ∈ productsWithOrders tables, row.2 = o ∧ category row.1.1 = true := by
  obtain ⟨member, holds⟩ := List.mem_filter.mp containing
  rw [Bool.and_eq_true, ← any_liveLines, List.any_eq_true] at holds
  obtain ⟨live, line, inside, belongs⟩ := holds
  obtain ⟨stored, chosen⟩ := List.mem_filter.mp inside
  obtain ⟨joined, liveLine⟩ := List.mem_filter.mp stored
  refine ⟨(line, o), ?_, rfl, chosen⟩
  rw [productsWithOrders, List.mem_filter, mem_join]
  exact ⟨⟨joined, member, belongs⟩, by rw [liveLine, live]; rfl⟩

theorem exists_containing_of_count (tables : CleanTables) (category : OdsProducts → Bool)
    (chosen : OdsOrders → Bool) (counted : orderCountOf tables category chosen ≠ 0) :
    ∃ row ∈ productsWithOrders tables, category row.1.1 = true ∧ chosen row.2 = true := by
  obtain ⟨o, member⟩ := List.exists_mem_of_length_pos (Nat.pos_of_ne_zero counted)
  obtain ⟨containing, kept⟩ := List.mem_filter.mp member
  obtain ⟨row, joined, rfl, inside⟩ := exists_joinedLine tables category o containing
  exact ⟨row, joined, inside, kept⟩

/-- A live order with a live line of a category contains the category. -/
theorem containing_of_line (tables : CleanTables) (category : OdsProducts → Bool) (o : OdsOrders)
    (member : o ∈ tables.orders.rows) (live : o.isDeleted = false)
    (lines : linesOf tables category o ≠ []) : o ∈ ordersContaining tables category := by
  obtain ⟨line, inside⟩ := List.exists_mem_of_ne_nil _ lines
  obtain ⟨stored, holds⟩ := List.mem_filter.mp inside
  rw [Bool.and_eq_true] at holds
  refine List.mem_filter.mpr ⟨member, ?_⟩
  rw [← any_liveLines, live, Bool.not_false, Bool.true_and, List.any_eq_true]
  exact ⟨line, List.mem_filter.mpr ⟨stored, holds.1⟩, holds.2⟩

/-- A narrower category has fewer lines in an order. -/
theorem length_linesOf_le (tables : CleanTables) (narrow wide : OdsProducts → Bool) (o : OdsOrders)
    (within : ∀ pr, narrow pr = true → wide pr = true) :
    (linesOf tables narrow o).length ≤ (linesOf tables wide o).length := by
  refine (List.monotone_filter_right (liveLines tables) fun line holds => ?_).length_le
  rw [Bool.and_eq_true] at holds ⊢
  exact ⟨within line.1 holds.1, holds.2⟩

end Lines

section Views

def inCategory (name group : String) (pr : OdsProducts) : Bool :=
  decide (pr.productCategoryName = name) && decide (pr.categoryGroup = group)

def inWeek (today : Date) (o : OdsOrders) : Bool :=
  inLastWeek today o.orderPurchaseTimestamp.date

/-- Each order count of the views and dashboards counts distinct live orders of its group, and no
group of the views is missing. -/
structure CategoryCountsExact (tables : CleanTables) : Prop where
  performance : ∀ row ∈ mvRealtimeProductPerformance tables,
    row.orderCount = orderCountOf tables (inCategory row.productCategoryName row.categoryGroup)
      (purchasedOn row.orderDate)
  performanceCovered : ∀ name group date,
    orderCountOf tables (inCategory name group) (purchasedOn date) ≠ 0 →
      ∃ row ∈ mvRealtimeProductPerformance tables,
        row.productCategoryName = name ∧ row.categoryGroup = group ∧ row.orderDate = date
  revenue : ∀ row ∈ mvCategoryRevenueAnalysis tables,
    row.totalOrders = orderCountOf tables (inCategory row.productCategoryName row.categoryGroup)
      fun _ => true
  revenueCovered : ∀ name group, (orderCountOf tables (inCategory name group) fun _ => true) ≠ 0 →
    ∃ row ∈ mvCategoryRevenueAnalysis tables,
      row.productCategoryName = name ∧ row.categoryGroup = group
  topProducts : ∀ today, ∀ row ∈ topSellingProducts today tables,
    row.totalOrders = orderCountOf tables (inCategory row.productCategoryName row.categoryGroup)
      (inWeek today)
  categories : ∀ row ∈ revenueByCategory tables,
    row.totalOrders = orderCountOf tables (fun pr => pr.categoryGroup = row.categoryGroup)
      fun _ => true
  categoriesCovered : ∀ group,
    (orderCountOf tables (fun pr => pr.categoryGroup = group) fun _ => true) ≠ 0 →
      ∃ row ∈ revenueByCategory tables, row.categoryGroup = group

theorem performance_orderCount (tables : CleanTables) (row : ProductPerformance)
    (member : row ∈ mvRealtimeProductPerformance tables) :
    row.orderCount = (joinedLines tables (inCategory row.productCategoryName row.categoryGroup)
      (purchasedOn row.orderDate)).length := by
  obtain ⟨first, -, rfl⟩ := (mem_groupBy _ _ _ _).mp member
  change (List.filter _ _).length = (List.filter _ _).length
  congr 1
  apply List.filter_congr
  intro other _
  simp [inCategory, purchasedOn]

theorem revenue_totalOrders (tables : CleanTables) (row : CategoryRevenue)
    (member : row ∈ mvCategoryRevenueAnalysis tables) :
    row.totalOrders = (joinedLines tables (inCategory row.productCategoryName row.categoryGroup)
      fun _ => true).length := by
  obtain ⟨first, -, rfl⟩ := (mem_groupBy _ _ _ _).mp member
  change (List.filter _ _).length = (List.filter _ _).length
  congr 1
  apply List.filter_congr
  intro other _
  simp [inCategory, Bool.and_comm]

/-- The top-seller query adds the dates of the last week again. -/
theorem topProducts_totalOrders (today : Date) (tables : CleanTables) (row : TopProduct)
    (member : row ∈ topSellingProducts today tables) :
    row.totalOrders = (joinedLines tables (inCategory row.productCategoryName row.categoryGroup)
      (inWeek today)).length := by
  have inside := List.mem_of_mem_take member
  rw [mem_orderByDesc, productTotals] at inside
  obtain ⟨first, -, rfl⟩ := (mem_groupBy _ _ _ _).mp inside
  change (List.map ProductPerformance.orderCount (List.filter _ (List.filter _ _))).sum = _
  rw [List.filter_filter, mvRealtimeProductPerformance, sum_groupBy _ _ _ (fun _ => 1) _ fun other =>
    inCategory first.productCategoryName first.categoryGroup other.1.1 && inWeek today other.2]
  · rw [sum_map_one, joinedLines]
  · intro group rows
    rw [sum_map_one]
  · intro other _
    simp [inCategory, inWeek]

/-- The category query adds the category names of a group again. -/
theorem categories_totalOrders (tables : CleanTables) (row : CategoryTotal)
    (member : row ∈ revenueByCategory tables) :
    row.totalOrders = (joinedLines tables (fun pr => pr.categoryGroup = row.categoryGroup)
      fun _ => true).length := by
  rw [revenueByCategory, mem_orderByDesc] at member
  obtain ⟨first, -, rfl⟩ := (mem_groupBy _ _ _ _).mp member
  change (List.map CategoryRevenue.totalOrders (List.filter _ _)).sum = _
  rw [mvCategoryRevenueAnalysis, sum_groupBy _ _ _ (fun _ => 1) _ fun other =>
    decide (other.1.1.categoryGroup = first.categoryGroup)]
  · rw [sum_map_one, joinedLines]
    simp only [Bool.and_true]
  · intro group rows
    rw [sum_map_one]
  · intro other _
    rfl

/-- The category group of a joined row has a row in the category query. -/
theorem exists_categoryTotal (tables : CleanTables) (group : String)
    (row : (OdsProducts × OdsOrderItems) × OdsOrders) (joined : row ∈ productsWithOrders tables)
    (inside : row.1.1.categoryGroup = group) :
    ∃ total ∈ revenueByCategory tables, total.categoryGroup = group :=
  ⟨_, (mem_orderByDesc _ _ _).mpr ((mem_groupBy _ _ _ _).mpr
    ⟨_, (mem_groupBy _ _ _ _).mpr ⟨row, joined, rfl⟩, rfl⟩), inside⟩

theorem categoryCountsExact_of_one (tables : CleanTables) (single : OneLinePerGroup tables) :
    CategoryCountsExact tables := by
  have named (name group : String) (chosen : OdsOrders → Bool) :
      (joinedLines tables (inCategory name group) chosen).length =
        orderCountOf tables (inCategory name group) chosen := by
    refine (length_joinedLines_eq_iff tables _ chosen).mpr fun o stored live _ => ?_
    refine (length_linesOf_le tables _ _ o fun pr holds => ?_).trans (single o stored live group)
    rw [inCategory, Bool.and_eq_true] at holds
    exact holds.2
  constructor
  case performance =>
    intro row member
    rw [performance_orderCount tables row member, named]
  case performanceCovered =>
    intro name group date counted
    obtain ⟨row, joined, inside, purchased⟩ := exists_containing_of_count tables _ _ counted
    rw [inCategory, Bool.and_eq_true] at inside
    exact ⟨_, (mem_groupBy _ _ _ _).mpr ⟨row, joined, rfl⟩, of_decide_eq_true inside.1,
      of_decide_eq_true inside.2, of_decide_eq_true purchased⟩
  case revenue =>
    intro row member
    rw [revenue_totalOrders tables row member, named]
  case revenueCovered =>
    intro name group counted
    obtain ⟨row, joined, inside, -⟩ := exists_containing_of_count tables _ _ counted
    rw [inCategory, Bool.and_eq_true] at inside
    exact ⟨_, (mem_groupBy _ _ _ _).mpr ⟨row, joined, rfl⟩, of_decide_eq_true inside.1,
      of_decide_eq_true inside.2⟩
  case topProducts =>
    intro today row member
    rw [topProducts_totalOrders today tables row member, named]
  case categories =>
    intro row member
    rw [categories_totalOrders tables row member]
    exact (length_joinedLines_eq_iff tables _ _).mpr fun o stored live _ =>
      single o stored live row.categoryGroup
  case categoriesCovered =>
    intro group counted
    obtain ⟨row, joined, inside, -⟩ := exists_containing_of_count tables _ _ counted
    exact exists_categoryTotal tables group row joined (of_decide_eq_true inside)

theorem oneLinePerGroup_of_exact (tables : CleanTables) (right : CategoryCountsExact tables) :
    OneLinePerGroup tables := by
  intro o stored live group
  by_cases lines : linesOf tables (fun pr => pr.categoryGroup = group) o = []
  · rw [lines]
    exact Nat.zero_le _
  · have containing := containing_of_line tables _ o stored live lines
    obtain ⟨joinedRow, joined, -, inside⟩ := exists_joinedLine tables _ o containing
    obtain ⟨row, member, rfl⟩ :=
      exists_categoryTotal tables group joinedRow joined (of_decide_eq_true inside)
    have counted := right.categories row member
    rw [categories_totalOrders tables row member, length_joinedLines_eq_iff] at counted
    exact counted o stored live rfl

/-- The category order counts are right exactly when no live order has two live lines of one
category group. -/
theorem category_counts_exact_iff (tables : CleanTables) :
    CategoryCountsExact tables ↔ OneLinePerGroup tables :=
  ⟨oneLinePerGroup_of_exact tables, categoryCountsExact_of_one tables⟩

/-- One order contains two products of one category. -/
def twoProducts : CleanTables where
  orders := oneDelivered
  orderItems := ⟨[⟨"o1", "p1", 10, 12, false⟩, ⟨"o1", "p2", 20, 22, false⟩], by decide⟩
  products := ⟨[⟨"p1", "casa", "Home", false⟩, ⟨"p2", "casa", "Home", false⟩], by decide⟩
  payments := KeyedTable.empty _

/-- The product view counts the order twice. -/
theorem two_products_counted_twice :
    (mvRealtimeProductPerformance twoProducts).map ProductPerformance.orderCount = [2] ∧
      ¬ CategoryCountsExact twoProducts := by
  refine ⟨by decide, fun right => ?_⟩
  have single := oneLinePerGroup_of_exact twoProducts right
    ⟨"o1", "c1", "delivered", 0, none, none, false⟩ (by decide) rfl "Home"
  exact absurd single (by decide)

end Views

end OdsPipeline
