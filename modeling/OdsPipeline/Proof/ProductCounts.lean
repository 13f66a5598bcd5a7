import OdsPipeline.Proof.CategoryCustomers

namespace OdsPipeline
open Library StarRocks MaterializedViews PeriodicDashboard

section Products
variable (tables : CleanTables) (group : String)

/-- The live products of a group with a live item of a live order. -/
def soldProducts : List OdsProducts :=
  tables.products.rows.filter fun pr => !pr.isDeleted && decide (pr.categoryGroup = group) &&
    tables.orderItems.rows.any fun oi => !oi.isDeleted && decide (pr.productId = oi.productId) &&
      tables.orders.rows.any fun o => !o.isDeleted && decide (oi.orderId = o.orderId)

/-- A product is sold exactly when it stands in a joined row of its group. -/
theorem mem_soldProducts (pr : OdsProducts) :
    pr ∈ soldProducts tables group ↔ ∃ row ∈ groupRows tables group, row.1.1 = pr := by
  simp only [soldProducts, groupRows, productsWithOrders, List.mem_filter, mem_join, List.any_eq_true,
    Bool.and_eq_true, Bool.not_eq_true', decide_eq_true_eq]
  constructor
  · rintro ⟨product, ⟨liveProduct, inGroup⟩, oi, item, ⟨liveItem, same⟩, o, order, liveOrder, belongs⟩
    exact ⟨((pr, oi), o), ⟨⟨⟨⟨product, item, same⟩, order, belongs⟩, ⟨liveProduct, liveItem⟩,
      liveOrder⟩, inGroup⟩, rfl⟩
  · rintro ⟨⟨⟨product, oi⟩, o⟩, ⟨⟨⟨⟨stored, item, same⟩, order, belongs⟩, ⟨liveProduct, liveItem⟩,
      liveOrder⟩, inGroup⟩, rfl⟩
    exact ⟨stored, ⟨liveProduct, inGroup⟩, oi, item, ⟨liveItem, same⟩, o, order, liveOrder, belongs⟩

/-- The joined rows of a group name each sold product, whose id is its key. -/
theorem countDistinct_groupRows :
    countDistinct (fun row => row.1.1.productId) (groupRows tables group) =
      (soldProducts tables group).length := by
  have ids : ((soldProducts tables group).map OdsProducts.productId).Nodup :=
    tables.products.distinct.sublist (List.filter_sublist.map _)
  have counted : countDistinct OdsProducts.productId (soldProducts tables group) =
      (soldProducts tables group).length := by
    rw [countDistinct, List.Nodup.dedup ids, List.length_map]
  rw [← counted]
  apply countDistinct_congr
  intro id
  simp only [List.mem_map, mem_soldProducts]
  constructor
  · rintro ⟨row, member, rfl⟩
    exact ⟨row.1.1, ⟨row, member, rfl⟩, rfl⟩
  · rintro ⟨pr, ⟨row, member, rfl⟩, rfl⟩
    exact ⟨row, member, rfl⟩

/-- A product id lies in one group and has one name. -/
theorem category_of_productId (first second : (OdsProducts × OdsOrderItems) × OdsOrders)
    (inFirst : first ∈ groupRows tables group) (inSecond : second ∈ groupRows tables group)
    (same : first.1.1.productId = second.1.1.productId) : first.1.1 = second.1.1 := by
  have stored (row : (OdsProducts × OdsOrderItems) × OdsOrders)
      (member : row ∈ groupRows tables group) : row.1.1 ∈ tables.products.rows :=
    List.mem_of_mem_filter ((mem_soldProducts tables group row.1.1).mpr ⟨row, member, rfl⟩)
  have known := tables.products.lookup_of_mem first.1.1 (stored first inFirst)
  have other := tables.products.lookup_of_mem second.1.1 (stored second inSecond)
  rw [same, other] at known
  exact (Option.some.inj known).symm

/-- The names of a group count each product in its one name. -/
theorem sum_totalProducts :
    ((groupNames tables group).map CategoryRevenue.totalProducts).sum =
      (soldProducts tables group).length := by
  rw [groupNames_eq, groupBy, List.map_map, ← countDistinct_groupRows]
  apply (sum_countDistinct _ _ _).trans
  rw [countDistinct_pair_eq_iff]
  intro first inFirst second inSecond same
  rw [category_of_productId tables group first second inFirst inSecond same]

end Products

section Query
variable (tables : CleanTables)

/-- Each group shows its sold products and divides by a positive number of customers, and no group
with a sold product is missing. -/
structure ProductsRollUp : Prop where
  products : ∀ row ∈ revenueByCategory tables,
    row.totalProducts = (soldProducts tables row.categoryGroup).length
  customers : ∀ row ∈ revenueByCategory tables, 1 ≤ row.uniqueCustomers
  divided : ∀ row ∈ revenueByCategory tables, row.revenuePerCustomer ≠ none
  covered : ∀ group, soldProducts tables group ≠ [] →
    ∃ row ∈ revenueByCategory tables, row.categoryGroup = group

theorem one_le_uniqueCustomers (row : CategoryTotal) (member : row ∈ revenueByCategory tables) :
    1 ≤ row.uniqueCustomers := by
  obtain ⟨nonempty, counted, -⟩ := categoryTotal_eq tables row member
  have names := length_groupNames_le tables row.categoryGroup
  have some := List.length_pos_iff.mpr nonempty
  omega

theorem product_counts_roll_up : ProductsRollUp tables := by
  constructor
  case products =>
    intro row member
    rw [revenueByCategory, mem_orderByDesc] at member
    obtain ⟨first, inView, rfl⟩ := (mem_groupBy _ _ _ _).mp member
    exact sum_totalProducts tables first.categoryGroup
  case customers => exact one_le_uniqueCustomers tables
  case divided =>
    intro row member
    have customers := one_le_uniqueCustomers tables row member
    have positive : (row.uniqueCustomers : ℚ) ≠ 0 := Nat.cast_ne_zero.mpr (by omega)
    rw [(categoryTotal_eq tables row member).2.2, divide, if_neg positive]
    exact Option.some_ne_none _
  case covered =>
    intro group sold
    obtain ⟨pr, member⟩ := List.exists_mem_of_ne_nil _ sold
    obtain ⟨row, inside, -⟩ := (mem_soldProducts tables group pr).mp member
    obtain ⟨joined, inGroup⟩ := List.mem_filter.mp inside
    exact exists_categoryTotal tables group row joined (of_decide_eq_true inGroup)

end Query

end OdsPipeline
