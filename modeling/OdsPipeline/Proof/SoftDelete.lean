import OdsPipeline.Construction.MaterializedViews
import OdsPipeline.Library.Load
import OdsPipeline.Library.RowOrder

namespace OdsPipeline
open Library StarRocks MaterializedViews

section Live

def liveOrders (tables : CleanTables) : List OdsOrders :=
  tables.orders.rows.filter fun o => !o.isDeleted

def livePaymentRows (tables : CleanTables) : List OdsPayments :=
  tables.payments.rows.filter fun p => !p.isDeleted

def liveItems (tables : CleanTables) : List OdsOrderItems :=
  tables.orderItems.rows.filter fun oi => !oi.isDeleted

def liveProducts (tables : CleanTables) : List OdsProducts :=
  tables.products.rows.filter fun pr => !pr.isDeleted

/-- The payment views join live rows only. -/
theorem ordersWithPayments_eq (tables : CleanTables) :
    ordersWithPayments tables =
      join (liveOrders tables) (livePaymentRows tables) fun o p => o.orderId = p.orderId := by
  rw [ordersWithPayments]
  exact filter_join tables.orders.rows tables.payments.rows
    (fun o p => decide (o.orderId = p.orderId)) (fun o => !o.isDeleted) fun p => !p.isDeleted

/-- The product views join live rows only. -/
theorem productsWithOrders_eq (tables : CleanTables) :
    productsWithOrders tables =
      join (join (liveProducts tables) (liveItems tables) fun pr oi => pr.productId = oi.productId)
        (liveOrders tables) fun line o => line.2.orderId = o.orderId := by
  have lines := filter_join tables.products.rows tables.orderItems.rows
    (fun pr oi => decide (pr.productId = oi.productId)) (fun pr => !pr.isDeleted)
    fun oi => !oi.isDeleted
  rw [productsWithOrders, liveProducts, liveItems, ← lines]
  exact filter_join _ tables.orders.rows _
    (fun line : OdsProducts × OdsOrderItems => !line.1.isDeleted && !line.2.isDeleted)
    fun o => !o.isDeleted

end Live

section Views
variable {first second : CleanTables}

/-- The five views hold the same rows. -/
structure SameViews (first second : CleanTables) : Prop where
  daily : (mvRealtimeDailyMetrics first).Perm (mvRealtimeDailyMetrics second)
  performance : (mvRealtimeProductPerformance first).Perm (mvRealtimeProductPerformance second)
  lifetime : (mvCustomerLifetimeAnalysis first).Perm (mvCustomerLifetimeAnalysis second)
  patterns : (mvBusinessPatterns first).Perm (mvBusinessPatterns second)
  categories : (mvCategoryRevenueAnalysis first).Perm (mvCategoryRevenueAnalysis second)

theorem mvRealtimeDailyMetrics_perm
    (payments : (ordersWithPayments first).Perm (ordersWithPayments second)) :
    (mvRealtimeDailyMetrics first).Perm (mvRealtimeDailyMetrics second) :=
  groupBy_perm _ (fun _ _ _ perm => by
    simp only [perm.length_eq, countWhen_perm perm, sumOf_perm perm, average_perm perm]) payments

theorem mvCustomerLifetimeAnalysis_perm
    (payments : (ordersWithPayments first).Perm (ordersWithPayments second)) :
    (mvCustomerLifetimeAnalysis first).Perm (mvCustomerLifetimeAnalysis second) :=
  groupBy_perm _ (fun _ _ _ perm => by
    simp only [perm.length_eq, sumOf_perm perm, average_perm perm, min?_perm (perm.map _),
      max?_perm (perm.map _)]) payments

theorem mvBusinessPatterns_perm
    (payments : (ordersWithPayments first).Perm (ordersWithPayments second)) :
    (mvBusinessPatterns first).Perm (mvBusinessPatterns second) :=
  groupBy_perm _ (fun _ _ _ perm => by
    simp only [perm.length_eq, sumOf_perm perm, average_perm perm]) payments

theorem mvRealtimeProductPerformance_perm
    (products : (productsWithOrders first).Perm (productsWithOrders second)) :
    (mvRealtimeProductPerformance first).Perm (mvRealtimeProductPerformance second) :=
  groupBy_perm _ (fun _ _ _ perm => by
    simp only [perm.length_eq, sumOf_perm perm, countDistinct_perm perm, average_perm perm])
    products

theorem mvCategoryRevenueAnalysis_perm
    (products : (productsWithOrders first).Perm (productsWithOrders second)) :
    (mvCategoryRevenueAnalysis first).Perm (mvCategoryRevenueAnalysis second) :=
  groupBy_perm _ (fun _ _ _ perm => by
    simp only [perm.length_eq, sumOf_perm perm, countDistinct_perm perm, average_perm perm])
    products

/-- The two joins decide all five views. -/
theorem sameViews_of_joins
    (payments : (ordersWithPayments first).Perm (ordersWithPayments second))
    (products : (productsWithOrders first).Perm (productsWithOrders second)) :
    SameViews first second where
  daily := mvRealtimeDailyMetrics_perm payments
  performance := mvRealtimeProductPerformance_perm products
  lifetime := mvCustomerLifetimeAnalysis_perm payments
  patterns := mvBusinessPatterns_perm payments
  categories := mvCategoryRevenueAnalysis_perm products

end Views

section SoftDelete

/-- Two states contain the same live rows in the four tables that the views read. -/
structure SameLiveRows (first second : CleanTables) : Prop where
  orders : ∀ o, o.isDeleted = false → (o ∈ first.orders.rows ↔ o ∈ second.orders.rows)
  payments : ∀ p, p.isDeleted = false → (p ∈ first.payments.rows ↔ p ∈ second.payments.rows)
  orderItems : ∀ oi, oi.isDeleted = false →
    (oi ∈ first.orderItems.rows ↔ oi ∈ second.orderItems.rows)
  products : ∀ pr, pr.isDeleted = false → (pr ∈ first.products.rows ↔ pr ∈ second.products.rows)

/-- Keyed tables with the same live rows list these rows in some order. -/
theorem live_perm {Row Key : Type} {keyOf : Row → Key} (isDeleted : Row → Bool)
    (first second : KeyedTable keyOf)
    (same : ∀ row, isDeleted row = false → (row ∈ first.rows ↔ row ∈ second.rows)) :
    (first.rows.filter fun row => !isDeleted row).Perm
      (second.rows.filter fun row => !isDeleted row) := by
  rw [List.perm_ext_iff_of_nodup (first.nodup_rows.filter _) (second.nodup_rows.filter _)]
  intro row
  rw [List.mem_filter, List.mem_filter, Bool.not_eq_true']
  exact and_congr_left fun live => same row live

/-- The order is marked as deleted and every other row stays as it is. -/
def softDelete (tables : CleanTables) (id : String) : CleanTables where
  orders := tables.orders.project
    (fun o => if o.orderId = id then { o with isDeleted := true } else o) OdsOrders.orderId
    fun o => by split <;> rfl
  orderItems := tables.orderItems
  products := tables.products
  payments := tables.payments

/-- The order is gone together with its payments and items. -/
def withoutOrder (tables : CleanTables) (id : String) : CleanTables where
  orders := tables.orders.filter fun o => o.orderId ≠ id
  orderItems := tables.orderItems.filter fun oi => oi.orderId ≠ id
  products := tables.products
  payments := tables.payments.filter fun p => p.orderId ≠ id

/-- A soft-deleted order is not live. -/
theorem liveOrders_softDelete (tables : CleanTables) (id : String) :
    liveOrders (softDelete tables id) = liveOrders (withoutOrder tables id) := by
  change (tables.orders.rows.map _).filter _ = (tables.orders.rows.filter _).filter _
  rw [List.filter_map, List.filter_filter]
  induction tables.orders.rows with
  | nil => rfl
  | cons o rest ih =>
      by_cases same : o.orderId = id
      · simpa [same] using ih
      · cases live : o.isDeleted <;> simpa [same, live] using ih

theorem orderId_ne_of_liveOrders (tables : CleanTables) (id : String) (o : OdsOrders)
    (member : o ∈ liveOrders (withoutOrder tables id)) : o.orderId ≠ id :=
  of_decide_eq_true (List.mem_filter.mp (List.mem_of_mem_filter member)).2

/-- No live order matches a payment of the soft-deleted order. -/
theorem ordersWithPayments_softDelete (tables : CleanTables) (id : String) :
    ordersWithPayments (softDelete tables id) = ordersWithPayments (withoutOrder tables id) := by
  have payments : livePaymentRows (withoutOrder tables id) =
      (livePaymentRows (softDelete tables id)).filter fun p => decide (p.orderId ≠ id) :=
    List.filter_comm _ _ _
  rw [ordersWithPayments_eq, ordersWithPayments_eq, liveOrders_softDelete, payments,
    join_filter_right]
  intro o inOrders p _ matching
  have other := orderId_ne_of_liveOrders tables id o inOrders
  rw [of_decide_eq_true matching] at other
  exact decide_eq_true other

/-- No live order matches an item of the soft-deleted order. -/
theorem productsWithOrders_softDelete (tables : CleanTables) (id : String) :
    productsWithOrders (softDelete tables id) = productsWithOrders (withoutOrder tables id) := by
  have items : liveItems (withoutOrder tables id) =
      (liveItems (softDelete tables id)).filter fun oi => decide (oi.orderId ≠ id) :=
    List.filter_comm _ _ _
  have lines := filter_join (liveProducts (softDelete tables id)) (liveItems (softDelete tables id))
    (fun pr oi => decide (pr.productId = oi.productId)) (fun _ => true)
    fun oi => decide (oi.orderId ≠ id)
  rw [List.filter_true] at lines
  rw [productsWithOrders_eq, productsWithOrders_eq, liveOrders_softDelete, items]
  change _ = join (join (liveProducts (softDelete tables id)) _ _) _ _
  rw [← lines, join_filter_left]
  intro line _ o inOrders matching
  have other := orderId_ne_of_liveOrders tables id o inOrders
  rw [← of_decide_eq_true matching] at other
  exact decide_eq_true other

/-- The views read live rows only, so a soft-deleted order takes its payments and items along. -/
theorem soft_deleted_rows_unseen :
    (∀ first second, SameLiveRows first second → SameViews first second) ∧
      ∀ tables id, SameViews (softDelete tables id) (withoutOrder tables id) := by
  constructor
  · intro first second same
    have orders := live_perm OdsOrders.isDeleted first.orders second.orders same.orders
    have payments := live_perm OdsPayments.isDeleted first.payments second.payments same.payments
    have items := live_perm OdsOrderItems.isDeleted first.orderItems second.orderItems
      same.orderItems
    have products := live_perm OdsProducts.isDeleted first.products second.products same.products
    apply sameViews_of_joins
    · rw [ordersWithPayments_eq, ordersWithPayments_eq]
      exact join_perm _ orders payments
    · rw [productsWithOrders_eq, productsWithOrders_eq]
      exact join_perm _ (join_perm _ products items) orders
  · intro tables id
    apply sameViews_of_joins
    · rw [ordersWithPayments_softDelete]
    · rw [productsWithOrders_softDelete]

/-- A soft-deleted order keeps its live payment. -/
def deletedBeside : CleanTables where
  orders := ⟨[⟨"o1", "c1", "shipped", 0, none, none, false⟩,
    ⟨"o2", "c1", "shipped", 0, none, none, true⟩], by decide⟩
  orderItems := KeyedTable.empty _
  products := KeyedTable.empty _
  payments := ⟨[⟨"o1", "boleto", 30, false⟩, ⟨"o2", "voucher", 20, false⟩], by decide⟩

def deletedNowhere : CleanTables where
  orders := ⟨[⟨"o1", "c1", "shipped", 0, none, none, false⟩], by decide⟩
  orderItems := KeyedTable.empty _
  products := KeyedTable.empty _
  payments := ⟨[⟨"o1", "boleto", 30, false⟩, ⟨"o2", "voucher", 20, false⟩], by decide⟩

theorem deletedBeside_unseen : SameViews deletedBeside deletedNowhere := by
  refine soft_deleted_rows_unseen.1 _ _ ⟨fun o live => ?_, fun _ _ => Iff.rfl, fun _ _ => Iff.rfl,
    fun _ _ => Iff.rfl⟩
  simp only [deletedBeside, deletedNowhere, List.mem_cons, List.not_mem_nil, or_false]
  refine or_iff_left fun deleted => ?_
  rw [deleted] at live
  exact absurd live (by decide)

end SoftDelete

end OdsPipeline
