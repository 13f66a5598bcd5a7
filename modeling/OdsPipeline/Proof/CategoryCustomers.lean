import OdsPipeline.Proof.CategoryCounts
import OdsPipeline.Proof.ViewTotals

namespace OdsPipeline
open Library StarRocks MaterializedViews PeriodicDashboard

section Groups
variable (tables : CleanTables) (group : String)

/-- The customers of the live orders with a live item of a live product of the group. -/
def groupCustomers : Nat :=
  countDistinct OdsOrders.customerId (ordersContaining tables fun pr => pr.categoryGroup = group)

/-- The joined rows of a group. -/
def groupRows : List ((OdsProducts × OdsOrderItems) × OdsOrders) :=
  (productsWithOrders tables).filter fun row => row.1.1.categoryGroup = group

/-- The exact value of the items of a group. -/
def groupRevenue : ℚ := sumOf (fun row => row.1.2.totalItemValue) (groupRows tables group)

/-- The view rows of a group. -/
def groupNames : List CategoryRevenue :=
  (mvCategoryRevenueAnalysis tables).filter fun row => row.categoryGroup = group

/-- No customer has bought under two category names of one group. -/
def OneNameEach : Prop :=
  ∀ first ∈ productsWithOrders tables, ∀ second ∈ productsWithOrders tables,
    first.1.1.categoryGroup = second.1.1.categoryGroup →
      first.2.customerId = second.2.customerId →
        first.1.1.productCategoryName = second.1.1.productCategoryName

instance : Decidable (OneNameEach tables) :=
  inferInstanceAs (Decidable (∀ first ∈ productsWithOrders tables, _))

/-- Each group counts its customers once, so that its revenue per customer is right to the cent,
and no group with a purchase is missing. -/
structure CustomersCountedOnce : Prop where
  customers : ∀ row ∈ revenueByCategory tables,
    row.uniqueCustomers = groupCustomers tables row.categoryGroup
  revenue : ∀ row ∈ revenueByCategory tables, ∃ value, row.revenuePerCustomer = some value ∧
    |value - groupRevenue tables row.categoryGroup / groupCustomers tables row.categoryGroup| ≤
      1 / 100
  covered : ∀ line ∈ productsWithOrders tables, ∃ row ∈ revenueByCategory tables,
    row.categoryGroup = line.1.1.categoryGroup

/-- The order of a joined row contains the category of its product. -/
theorem containing_of_joined (category : OdsProducts → Bool)
    (row : (OdsProducts × OdsOrderItems) × OdsOrders) (joined : row ∈ productsWithOrders tables)
    (inside : category row.1.1 = true) : row.2 ∈ ordersContaining tables category := by
  obtain ⟨pair, live⟩ := List.mem_filter.mp joined
  obtain ⟨line, stored, belongs⟩ := (mem_join _ _ _ _).mp pair
  rw [Bool.and_eq_true, Bool.not_eq_true'] at live
  apply containing_of_line tables category row.2 stored live.2
  apply List.ne_nil_of_mem
  apply List.mem_filter.mpr
  refine ⟨List.mem_filter.mpr ⟨line, live.1⟩, ?_⟩
  rw [inside, belongs]
  rfl

/-- The joined rows of a group name the customers of the group. -/
theorem groupCustomers_eq :
    groupCustomers tables group =
      countDistinct (fun row => row.2.customerId) (groupRows tables group) := by
  apply countDistinct_congr
  intro customer
  rw [List.mem_map, List.mem_map]
  constructor
  · rintro ⟨o, containing, rfl⟩
    obtain ⟨row, joined, rfl, inside⟩ := exists_joinedLine tables _ o containing
    exact ⟨row, List.mem_filter.mpr ⟨joined, inside⟩, rfl⟩
  · rintro ⟨row, member, rfl⟩
    obtain ⟨joined, inside⟩ := List.mem_filter.mp member
    exact ⟨row.2, containing_of_joined tables _ row joined inside, rfl⟩

/-- The names of a group are the groups of its joined rows. -/
theorem groupNames_eq : groupNames tables group =
    groupBy (fun row => (row.1.1.categoryGroup, row.1.1.productCategoryName)) (fun group rows => {
      categoryGroup := group.1
      productCategoryName := group.2
      totalProducts := countDistinct (fun row => row.1.1.productId) rows
      totalOrders := rows.length
      totalRevenue := roundTo 2 (sumOf (fun row => row.1.2.totalItemValue) rows)
      avgItemPrice := roundTo 2 (average (fun row => row.1.2.price) rows)
      uniqueCustomers := countDistinct (fun row => row.2.customerId) rows })
      (groupRows tables group) := by
  rw [groupNames, mvCategoryRevenueAnalysis, groupRows]
  apply filter_groupBy
  intro row _
  rfl

/-- The names of a group count a customer once for each name. -/
theorem sum_uniqueCustomers :
    ((groupNames tables group).map CategoryRevenue.uniqueCustomers).sum =
      countDistinct (fun row => ((row.1.1.categoryGroup, row.1.1.productCategoryName),
        row.2.customerId)) (groupRows tables group) := by
  rw [groupNames_eq, groupBy, List.map_map]
  exact sum_countDistinct _ _ _

/-- The names of a group count its customers once exactly when no customer has two names. -/
theorem sum_uniqueCustomers_eq_iff :
    ((groupNames tables group).map CategoryRevenue.uniqueCustomers).sum =
        groupCustomers tables group ↔
      ∀ first ∈ groupRows tables group, ∀ second ∈ groupRows tables group,
        first.2.customerId = second.2.customerId →
          first.1.1.productCategoryName = second.1.1.productCategoryName := by
  rw [sum_uniqueCustomers, groupCustomers_eq, countDistinct_pair_eq_iff]
  apply forall₄_congr
  intro first inFirst second inSecond
  have grouped (row : (OdsProducts × OdsOrderItems) × OdsOrders)
      (member : row ∈ groupRows tables group) : row.1.1.categoryGroup = group :=
    of_decide_eq_true (List.mem_filter.mp member).2
  rw [Prod.mk.injEq, grouped first inFirst, grouped second inSecond]
  simp only [true_and]

/-- Each name has a customer, so a group has no more names than counted customers. -/
theorem length_groupNames_le : (groupNames tables group).length ≤
    ((groupNames tables group).map CategoryRevenue.uniqueCustomers).sum := by
  have each : ∀ row ∈ groupNames tables group, 1 ≤ row.uniqueCustomers := by
    intro row member
    obtain ⟨first, joined, rfl⟩ := (mem_groupBy _ _ _ _).mp (List.mem_of_mem_filter member)
    exact countDistinct_pos _ _ (List.ne_nil_of_mem (List.mem_filter.mpr
      ⟨joined, decide_eq_true rfl⟩))
  have total := List.sum_le_sum each
  rw [sum_map_one] at total
  exact total

/-- The revenue of a group is off by at most half a cent for each of its names. -/
theorem abs_groupRevenue_sub_le :
    |sumOf CategoryRevenue.totalRevenue (groupNames tables group) - groupRevenue tables group| ≤
      5 / 1000 * (groupNames tables group).length := by
  rw [groupNames_eq, groupRevenue]
  apply abs_sum_groupBy_sub_le
  intro key rows
  exact abs_cents_sub_le _

end Groups

section Query
variable (tables : CleanTables)

/-- A query row adds up the names of its group. -/
theorem categoryTotal_eq (row : CategoryTotal) (member : row ∈ revenueByCategory tables) :
    groupNames tables row.categoryGroup ≠ [] ∧
      row.uniqueCustomers = ((groupNames tables row.categoryGroup).map
        CategoryRevenue.uniqueCustomers).sum ∧
      row.revenuePerCustomer = (divide (sumOf CategoryRevenue.totalRevenue
        (groupNames tables row.categoryGroup)) row.uniqueCustomers).map (roundTo 2) := by
  rw [revenueByCategory, mem_orderByDesc] at member
  obtain ⟨first, inView, rfl⟩ := (mem_groupBy _ _ _ _).mp member
  exact ⟨List.ne_nil_of_mem (List.mem_filter.mpr ⟨inView, decide_eq_true rfl⟩), rfl, rfl⟩

/-- A right number of customers gives a right revenue for each of them. -/
theorem revenuePerCustomer_near (row : CategoryTotal) (member : row ∈ revenueByCategory tables)
    (right : row.uniqueCustomers = groupCustomers tables row.categoryGroup) :
    ∃ value, row.revenuePerCustomer = some value ∧
      |value - groupRevenue tables row.categoryGroup /
        groupCustomers tables row.categoryGroup| ≤ 1 / 100 := by
  obtain ⟨nonempty, counted, divided⟩ := categoryTotal_eq tables row member
  have names := length_groupNames_le tables row.categoryGroup
  have some := List.length_pos_iff.mpr nonempty
  rw [← counted, right] at names
  have positive : (0 : ℚ) < groupCustomers tables row.categoryGroup := by
    exact_mod_cast some.trans_le names
  have few : ((groupNames tables row.categoryGroup).length : ℚ) ≤
      groupCustomers tables row.categoryGroup := by exact_mod_cast names
  rw [divide, right, if_neg positive.ne'] at divided
  refine ⟨_, divided, ?_⟩
  have rounded := abs_le.mp (abs_cents_sub_le (sumOf CategoryRevenue.totalRevenue
    (groupNames tables row.categoryGroup) / groupCustomers tables row.categoryGroup))
  have summed : |sumOf CategoryRevenue.totalRevenue (groupNames tables row.categoryGroup) /
      groupCustomers tables row.categoryGroup - groupRevenue tables row.categoryGroup /
        groupCustomers tables row.categoryGroup| ≤ 5 / 1000 := by
    rw [← sub_div, abs_div, abs_of_pos positive, div_le_iff₀ positive]
    have total := abs_groupRevenue_sub_le tables row.categoryGroup
    linarith
  have shared := abs_le.mp summed
  rw [abs_le]
  constructor <;> linarith

theorem oneNameEach_of_counted (right : CustomersCountedOnce tables) : OneNameEach tables := by
  intro first inFirst second inSecond group customer
  obtain ⟨row, member, same⟩ := right.covered first inFirst
  have counted := right.customers row member
  rw [(categoryTotal_eq tables row member).2.1, sum_uniqueCustomers_eq_iff] at counted
  exact counted first (List.mem_filter.mpr ⟨inFirst, decide_eq_true same.symm⟩) second
    (List.mem_filter.mpr ⟨inSecond, decide_eq_true (group.symm.trans same.symm)⟩) customer

theorem counted_of_oneNameEach (single : OneNameEach tables) : CustomersCountedOnce tables := by
  have counted (row : CategoryTotal) (member : row ∈ revenueByCategory tables) :
      row.uniqueCustomers = groupCustomers tables row.categoryGroup := by
    rw [(categoryTotal_eq tables row member).2.1, sum_uniqueCustomers_eq_iff]
    intro first inFirst second inSecond customer
    obtain ⟨joinedFirst, groupFirst⟩ := List.mem_filter.mp inFirst
    obtain ⟨joinedSecond, groupSecond⟩ := List.mem_filter.mp inSecond
    exact single first joinedFirst second joinedSecond
      ((of_decide_eq_true groupFirst).trans (of_decide_eq_true groupSecond).symm) customer
  exact {
    customers := counted
    revenue := fun row member => revenuePerCustomer_near tables row member (counted row member)
    covered := fun line joined => exists_categoryTotal tables _ line joined rfl }

/-- The customers of a category group are counted once exactly when no customer has bought under
two category names of one group. -/
theorem customers_counted_once_iff : CustomersCountedOnce tables ↔ OneNameEach tables :=
  ⟨oneNameEach_of_counted tables, counted_of_oneNameEach tables⟩

/-- A customer buys a lamp and a sofa, which are two names of one group. -/
def twoNames : CleanTables where
  orders := twoDelivered
  orderItems := ⟨[⟨"o1", "p1", 10, 12, false⟩, ⟨"o2", "p2", 20, 22, false⟩], by decide⟩
  products := lampAndSofa
  payments := KeyedTable.empty _

/-- The query counts the customer twice. -/
theorem two_names_counted_twice :
    (revenueByCategory twoNames).map CategoryTotal.uniqueCustomers = [2] ∧
      groupCustomers twoNames "Home" = 1 ∧ ¬ CustomersCountedOnce twoNames := by
  refine ⟨by decide +kernel, by decide, ?_⟩
  intro right
  have single := oneNameEach_of_counted twoNames right
  exact absurd single (by decide)

end Query

end OdsPipeline
