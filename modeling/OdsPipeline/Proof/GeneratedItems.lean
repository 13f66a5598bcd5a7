import OdsPipeline.Library.KeyedJoin
import OdsPipeline.Proof.GeneratedViews

namespace OdsPipeline
open Library SqlQueries Postgres OdsETLJob DataGenerator StarRocks MaterializedViews

section Shown
variable (tables : CleanTables)

/-- Some live product has the id. -/
def inCatalogue (productId : String) : Bool :=
  tables.products.rows.any fun pr => decide (pr.productId = productId) && !pr.isDeleted

/-- Some live order has the id. -/
def isPlaced (orderId : String) : Bool :=
  tables.orders.rows.any fun o => decide (o.orderId = orderId) && !o.isDeleted

/-- The product views count an item when it and the rows that it refers to are live. -/
def countsItem (oi : OdsOrderItems) : Bool :=
  !oi.isDeleted && (inCatalogue tables oi.productId && isPlaced tables oi.orderId)

/-- The value behind the product views is the value of the items that they count. -/
theorem itemTotal_eq : itemTotal tables =
    sumOf OdsOrderItems.totalItemValue (tables.orderItems.rows.filter (countsItem tables)) :=
  sumOf_join_join tables.products tables.orders OdsOrderItems.productId OdsOrderItems.orderId
    tables.orderItems.rows (fun pr => !pr.isDeleted) (fun oi => !oi.isDeleted)
    (fun o => !o.isDeleted) OdsOrderItems.totalItemValue

end Shown

section Stored

/-- An item with a product reaches the clean items. -/
def DataGenerator.storedItem (item : OrderItemsRow) : Option OdsOrderItems := do
  return {
    orderId := ← toText item.orderId
    productId := ← toText item.productId
    price := ← item.price
    totalItemValue := ← plus item.price item.freightValue
    isDeleted := false }

theorem DataGenerator.Sale.store_item (sale : Sale) (item : OrderItemsRow)
    (member : item ∈ sale.purchase.items) :
    orderItemsFeed.store OdsOrderItems.ofData item = storedItem item := by
  cases named : item.productId with
  | none =>
      have rejected : ¬ orderItemsFeed.passes item = true := fun passes =>
        (item_routesError sale.purchase item member named).2.1 (of_decide_eq_true passes)
      rw [Feed.store, if_neg rejected, storedItem, named]
      cases toText item.orderId <;> rfl
  | some product =>
      have known : item.productId ≠ none := by
        rw [named]
        exact Option.some_ne_none _
      have passes : orderItemsFeed.passes item = true :=
        decide_eq_true (item_routesClean sale.purchase item member known).1
      obtain ⟨price, priced, -⟩ := sale.purchase.prices item member
      obtain ⟨freight, freighted, -⟩ := sale.purchase.freights item member
      have order := sale.purchase.itemOrders item member
      have live := sale.liveItems item member
      rw [Feed.store, if_pos passes]
      change OdsOrderItems.ofData (OrderItemProcessor.cleanSelect item.toSource) = _
      simp only [OdsOrderItems.ofData, OrderItemProcessor.cleanSelect, OrderItemsRow.toSource,
        storedItem, order, named, priced, freighted, live]
      rfl

theorem exists_item_of_stored {database : Database} {oi : OdsOrderItems}
    (stored : oi ∈ orderItemsFeed.stored OdsOrderItems.ofData database) :
    ∃ item ∈ database.orderItems.rows, toText item.orderId = some oi.orderId ∧
      toText item.productId = some oi.productId := by
  obtain ⟨data, inside, kept⟩ := List.mem_filterMap.mp stored
  obtain ⟨item, member, rfl⟩ := List.mem_map.mp inside
  simp only [OdsOrderItems.ofData, Option.bind_eq_bind, Option.bind_eq_some_iff, Option.pure_def,
    Option.some.injEq] at kept
  obtain ⟨order, foundOrder, product, foundProduct, _, -, _, -, _, -, _, -, rfl⟩ := kept
  exact ⟨item, List.mem_of_mem_filter member, foundOrder, foundProduct⟩

theorem exists_product_of_stored {rows : List ProductsRow} {pr : OdsProducts}
    (stored : pr ∈ rows.filterMap (productsFeed.store OdsProducts.ofData)) :
    ∃ product ∈ rows, product.productId.val = pr.productId := by
  obtain ⟨product, member, kept⟩ := List.mem_filterMap.mp stored
  rw [Feed.store] at kept
  split at kept
  · simp only [OdsProducts.ofData, Option.bind_eq_bind, Option.bind_eq_some_iff, Option.pure_def,
      Option.some.injEq] at kept
    obtain ⟨_, found, _, -, _, -, rfl⟩ := kept
    exact ⟨product, member, Option.some.inj found⟩
  · cases kept

theorem stored_items_of_sold {sales : List Sale} {before after : Database}
    (sold : Sold sales before after) : orderItemsFeed.stored OdsOrderItems.ofData after =
      orderItemsFeed.stored OdsOrderItems.ofData before ++
        sales.flatMap fun sale => sale.purchase.items.filterMap storedItem := by
  have rows : (orderItemsFeed.source after).rows = _ := sold.orderItems
  rw [Feed.stored_eq, Feed.stored_eq, rows, List.filterMap_append, List.filterMap_flatMap]
  congr 1
  apply List.flatMap_congr
  intro sale _
  exact List.filterMap_congr fun item member => sale.store_item item member

end Stored

/-- The four jobs behind the views have read their whole changelogs, and no order of the run has
two valid items of one product. -/
structure ItemDelivery {Thread : Type} [DecidableEq Thread] (run : GeneratedRun Thread) extends
    SalesDelivery run.history where
  orderItems : orderItemsFeed.arrived records = orderItemsFeed.changelog run.history
  products : productsFeed.arrived records = productsFeed.changelog run.history
  single : OneItemPerProduct run.pool.committed

namespace ItemDelivery
variable {Thread : Type} [DecidableEq Thread] {run : GeneratedRun Thread}
  (delivery : ItemDelivery run) {sales : List Sale}

def tables : CleanTables := delivery.toSalesDelivery.tables

/-- The products that the generator has added. -/
def newProducts (_ : ItemDelivery run) : List OdsProducts :=
  (run.rows.filterMap NewRow.productsRow).filterMap (productsFeed.store OdsProducts.ofData)

theorem orders_perm (sold : Sold sales run.start run.pool.committed) :
    delivery.tables.orders.rows.Perm
      (run.startTables.orders.rows ++ sales.filterMap Sale.storedOrder) := by
  have orders : delivery.tables.orders.rows.Perm (ordersFeed.stored OdsOrders.ofData _) :=
    (ordersFeed.holds_complete _ run.orders_unbroken _ delivery.orders).stored_perm OdsOrders.ofData
  rwa [run.commitAll_history, stored_orders_of_sold sold, ← run.startTables_orders] at orders

theorem startTables_items :
    run.startTables.orderItems.rows = orderItemsFeed.stored OdsOrderItems.ofData run.start := by
  change orderItemsFeed.stored _ (Database.empty.commitAll (List.take _ _)) = _
  rw [Positions.all, List.take_length]
  rfl

theorem startTables_products :
    run.startTables.products.rows = productsFeed.stored OdsProducts.ofData run.start := by
  change productsFeed.stored _ (Database.empty.commitAll (List.take _ _)) = _
  rw [Positions.all, List.take_length]
  rfl

theorem orderItems_perm (sold : Sold sales run.start run.pool.committed) :
    delivery.tables.orderItems.rows.Perm (run.startTables.orderItems.rows ++
      sales.flatMap fun sale => sale.purchase.items.filterMap storedItem) := by
  have unbroken := run.orderItems_unbroken_iff.mpr delivery.single
  have items : delivery.tables.orderItems.rows.Perm
      (orderItemsFeed.stored OdsOrderItems.ofData _) :=
    (orderItemsFeed.holds_complete _ unbroken _ delivery.orderItems).stored_perm
      OdsOrderItems.ofData
  rwa [run.commitAll_history, stored_items_of_sold sold, ← startTables_items] at items

theorem products_perm :
    delivery.tables.products.rows.Perm
      (run.startTables.products.rows ++ delivery.newProducts) := by
  have products : delivery.tables.products.rows.Perm (productsFeed.stored OdsProducts.ofData _) :=
    (productsFeed.holds_complete _ run.products_unbroken _ delivery.products).stored_perm
      OdsProducts.ofData
  have rows : (productsFeed.source run.pool.committed).rows = _ :=
    run.committed ▸ productsFeed_reads.rows_addAll run.fits
  rw [run.commitAll_history, Feed.stored_eq, rows, List.filterMap_append, ← Feed.stored_eq,
    ← startTables_products] at products
  exact products

/-- An order of the start is placed as it was, and an order of a sale when it has a customer. -/
theorem isPlaced_old (sold : Sold sales run.start run.pool.committed) (orderId : String)
    (old : ∃ order ∈ run.start.orders.rows, order.orderId.val = orderId) :
    isPlaced delivery.tables orderId = isPlaced run.startTables orderId := by
  obtain ⟨order, stored, rfl⟩ := old
  have apart := (List.nodup_append'.mp (GeneratedRun.distinct_sales sold)).2.2
  have new : (sales.filterMap Sale.storedOrder).any
      (fun o => decide (o.orderId = order.orderId.val) && !o.isDeleted) = false := by
    rw [List.any_eq_false]
    intro o member found
    obtain ⟨sale, listed, kept⟩ := List.mem_filterMap.mp member
    have same := of_decide_eq_true (Bool.and_eq_true_iff.mp found).1
    apply apart (List.mem_map_of_mem stored)
    rw [Subtype.ext (same.symm.trans ((sale.orderId_storedOrder o kept).trans
      sale.purchase.id.symm))]
    exact List.mem_map_of_mem listed
  rw [isPlaced, (delivery.orders_perm sold).any_eq, List.any_append, new, Bool.or_false]
  rfl

theorem inCatalogue_old (productId : String)
    (old : ∃ product ∈ run.start.products.rows, product.productId.val = productId) :
    inCatalogue delivery.tables productId = inCatalogue run.startTables productId := by
  obtain ⟨product, stored, rfl⟩ := old
  have distinct := run.pool.committed.products.distinct
  have rows : run.pool.committed.products.rows = _ :=
    run.committed ▸ productsFeed_reads.rows_addAll run.fits
  rw [rows, List.map_append, List.nodup_append'] at distinct
  have new : delivery.newProducts.any
      (fun pr => decide (pr.productId = product.productId.val) && !pr.isDeleted) = false := by
    rw [List.any_eq_false]
    intro pr member found
    obtain ⟨other, listed, named⟩ := exists_product_of_stored member
    have same := of_decide_eq_true (Bool.and_eq_true_iff.mp found).1
    apply distinct.2.2 (List.mem_map_of_mem stored)
    rw [Subtype.ext (same.symm.trans named.symm)]
    exact List.mem_map_of_mem listed
  rw [inCatalogue, delivery.products_perm.any_eq, List.any_append, new, Bool.or_false]
  rfl

/-- The rows that an item of the start refers to are rows of the start. -/
theorem countsItem_old (sold : Sold sales run.start run.pool.committed) (oi : OdsOrderItems)
    (stored : oi ∈ run.startTables.orderItems.rows) :
    countsItem delivery.tables oi = countsItem run.startTables oi := by
  rw [startTables_items] at stored
  obtain ⟨item, member, order, product⟩ := exists_item_of_stored stored
  obtain ⟨orderKey, isOrder, orderId⟩ := Option.map_eq_some_iff.mp order
  obtain ⟨productKey, isProduct, productId⟩ := Option.map_eq_some_iff.mp product
  have orderKnown := run.foreignKeys.orderItemsOrder item member orderKey isOrder
  have productKnown := run.foreignKeys.orderItemsProduct item member productKey isProduct
  obtain ⟨orderRow, foundOrder⟩ := Option.isSome_iff_exists.mp orderKnown
  obtain ⟨productRow, foundProduct⟩ := Option.isSome_iff_exists.mp productKnown
  obtain ⟨orderStored, orderSame⟩ := KeyedTable.lookup_eq_some _ _ _ foundOrder
  obtain ⟨productStored, productSame⟩ := KeyedTable.lookup_eq_some _ _ _ foundProduct
  rw [countsItem, countsItem,
    delivery.isPlaced_old sold _ ⟨orderRow, orderStored, by rw [orderSame]; exact orderId⟩,
    delivery.inCatalogue_old _ ⟨productRow, productStored, by rw [productSame]; exact productId⟩]

/-- The order of a sale is placed exactly when it has a customer. -/
theorem isPlaced_new (sold : Sold sales run.start run.pool.committed) (sale : Sale)
    (listed : sale ∈ sales) :
    isPlaced delivery.tables sale.orderId = sale.purchase.order.customerId.isSome := by
  obtain ⟨-, distinct, apart⟩ := List.nodup_append'.mp (GeneratedRun.distinct_sales sold)
  have old : run.startTables.orders.rows.any
      (fun o => decide (o.orderId = sale.orderId) && !o.isDeleted) = false := by
    rw [List.any_eq_false]
    intro o member found
    rw [run.startTables_orders] at member
    obtain ⟨order, stored, orderId⟩ := exists_order_of_stored member
    have same := of_decide_eq_true (Bool.and_eq_true_iff.mp found).1
    apply apart (List.mem_map_of_mem stored)
    rw [Subtype.ext (orderId.trans (same.trans sale.purchase.id.symm))]
    exact List.mem_map_of_mem listed
  rw [isPlaced, (delivery.orders_perm sold).any_eq, List.any_append, old, Bool.false_or,
    Bool.eq_iff_iff, List.any_eq_true]
  constructor
  · rintro ⟨o, member, found⟩
    obtain ⟨other, inside, kept⟩ := List.mem_filterMap.mp member
    have same := of_decide_eq_true (Bool.and_eq_true_iff.mp found).1
    have isSale : other = sale := by
      apply List.inj_on_of_nodup_map distinct inside listed
      exact Subtype.ext (other.purchase.id.trans
        ((other.orderId_storedOrder o kept).symm.trans (same.trans sale.purchase.id.symm)))
    rw [isSale] at kept
    simp only [Sale.storedOrder, Option.bind_eq_bind, Option.bind_eq_some_iff, Option.pure_def,
      Option.some.injEq] at kept
    obtain ⟨_, customer, _⟩ := kept
    rw [← Option.isSome_map, ← toText, customer]
    rfl
  · intro customer
    obtain ⟨row, joined⟩ := sale.exists_joined customer
    have kept : ∃ o, sale.storedOrder = some o := by
      simp only [Sale.joined, paired, Option.bind_eq_bind, Option.bind_eq_some_iff] at joined
      obtain ⟨o, placed, -⟩ := joined
      exact ⟨o, placed⟩
    obtain ⟨o, placed⟩ := kept
    refine ⟨o, List.mem_filterMap.mpr ⟨sale, listed, placed⟩, ?_⟩
    have live : o.isDeleted = false := by
      simp only [Sale.storedOrder, Option.bind_eq_bind, Option.bind_eq_some_iff, Option.pure_def,
        Option.some.injEq] at placed
      obtain ⟨_, -, _, -, _, -, rfl⟩ := placed
      rfl
    rw [sale.orderId_storedOrder o placed, live]
    simp

end ItemDelivery

section Totals

/-- The sales with a customer. -/
def withCustomer (sales : List Sale) : List Sale :=
  sales.filter fun sale => sale.purchase.order.customerId.isSome

/-- The items of the sales with a customer whose products are live in the catalogue. -/
def shownItems (tables : CleanTables) (sales : List Sale) : List OrderItemsRow :=
  (withCustomer sales).flatMap fun sale => sale.purchase.items.filter fun item =>
    (toText item.productId).any (inCatalogue tables)

/-- The counted items of a sale have the values of its items in the catalogue. -/
theorem sumOf_storedItems (tables : CleanTables) (sale : Sale)
    (placed : isPlaced tables sale.orderId = true) (items : List OrderItemsRow)
    (own : ∀ item ∈ items, item ∈ sale.purchase.items) :
    sumOf OdsOrderItems.totalItemValue ((items.filterMap storedItem).filter (countsItem tables)) =
      soldValue (items.filter fun item => (toText item.productId).any (inCatalogue tables)) := by
  induction items with
  | nil => rfl
  | cons item rest ih =>
      have later := ih fun other member => own other (List.mem_cons_of_mem _ member)
      have member := own item List.mem_cons_self
      obtain ⟨price, priced, -⟩ := sale.purchase.prices item member
      obtain ⟨freight, freighted, -⟩ := sale.purchase.freights item member
      have order := sale.purchase.itemOrders item member
      cases named : toText item.productId with
      | none =>
          have nothing : storedItem item = none := by
            rw [storedItem, named, order]
            rfl
          rw [List.filterMap_cons_none nothing, later, List.filter_cons_of_neg]
          rw [named]
          exact Bool.false_ne_true
      | some productId =>
          have value : plus item.price item.freightValue = some (price + freight) := by
            rw [priced, freighted]
            rfl
          have kept : storedItem item =
              some ⟨sale.orderId, productId, price, price + freight, false⟩ := by
            rw [storedItem, named, order, value, priced]
            rfl
          have counted : countsItem tables ⟨sale.orderId, productId, price, price + freight, false⟩ =
              (toText item.productId).any (inCatalogue tables) := by
            rw [countsItem, placed, named, Option.any_some, Bool.and_true]
            rfl
          rw [List.filterMap_cons_some kept, List.filter_cons, List.filter_cons, counted]
          split
          · have own : soldValue [item] = price + freight := by simp [soldValue, value]
            have total (others : List OrderItemsRow) :
                soldValue (item :: others) = price + freight + soldValue others := by
              rw [← List.singleton_append, soldValue_append, own]
            rw [total]
            exact congrArg (price + freight + ·) later
          · exact later

/-- The counted items of some sales have the values of their shown items. -/
theorem sumOf_items_of_sales (tables : CleanTables) (sales : List Sale)
    (placed : ∀ sale ∈ sales, isPlaced tables sale.orderId =
      sale.purchase.order.customerId.isSome) :
    sumOf OdsOrderItems.totalItemValue ((sales.flatMap fun sale =>
      sale.purchase.items.filterMap storedItem).filter (countsItem tables)) =
      soldValue (shownItems tables sales) := by
  induction sales with
  | nil => rfl
  | cons sale rest ih =>
      have later := ih fun other member => placed other (List.mem_cons_of_mem _ member)
      have here := placed sale List.mem_cons_self
      rw [List.flatMap_cons, List.filter_append, sumOf, List.map_append, List.sum_append,
        shownItems, withCustomer, List.filter_cons]
      cases customer : sale.purchase.order.customerId.isSome with
      | true =>
          rw [customer] at here
          rw [if_pos rfl, List.flatMap_cons, soldValue_append]
          exact congrArg₂ (· + ·) (sumOf_storedItems tables sale here _ fun _ member => member) later
      | false =>
          rw [customer] at here
          have nothing : (sale.purchase.items.filterMap storedItem).filter (countsItem tables) = [] := by
            rw [List.filter_eq_nil_iff]
            intro oi member counted
            obtain ⟨item, inside, kept⟩ := List.mem_filterMap.mp member
            simp only [storedItem, Option.bind_eq_bind, Option.bind_eq_some_iff, Option.pure_def,
              Option.some.injEq] at kept
            obtain ⟨_, order, _, -, _, -, _, -, rfl⟩ := kept
            rw [sale.purchase.itemOrders item inside] at order
            have isPlaced := (Bool.and_eq_true_iff.mp (Bool.and_eq_true_iff.mp counted).2).2
            rw [← Option.some.inj order, here] at isPlaced
            cases isPlaced
          rw [nothing, if_neg Bool.false_ne_true]
          exact (zero_add _).trans later

/-- The payments of the joined rows are the payments of the sales with a customer. -/
theorem sumOf_joined (sales : List Sale) :
    sumOf (fun row => row.2.paymentValue) (sales.filterMap Sale.joined) =
      paidValue ((withCustomer sales).map fun sale => sale.purchase.payment) := by
  have groups : GroupsSales (fun _ => ()) fun _ => some () := fun _ _ _ => rfl
  have all : salesIn (fun _ => some ()) () sales = withCustomer sales :=
    List.filter_congr fun _ _ => Bool.and_true _
  have kept := filter_joined groups () sales
  have whole : (sales.filterMap Sale.joined).filter (fun _ => decide (() = ())) =
      sales.filterMap Sale.joined := List.filter_eq_self.mpr fun _ _ => rfl
  rw [whole] at kept
  rw [kept, sumOf_sales, all]
  rfl

/-- Items of a sale have no negative value. -/
theorem soldValue_filter_le (sale : Sale) (keep : OrderItemsRow → Bool) (items : List OrderItemsRow)
    (own : ∀ item ∈ items, item ∈ sale.purchase.items) :
    soldValue (items.filter keep) ≤ soldValue items := by
  rw [soldValue, soldValue]
  apply ((List.filter_sublist).filterMap _).sum_le_sum
  intro value member
  obtain ⟨item, inside, isValue⟩ := List.mem_filterMap.mp member
  obtain ⟨price, priced, low, -⟩ := sale.purchase.prices item (own item inside)
  obtain ⟨freight, freighted, least, -⟩ := sale.purchase.freights item (own item inside)
  rw [priced, freighted] at isValue
  have sum : price + freight = value := Option.some.inj isValue
  linarith

/-- The shown items never have more value than all items of the sales with a customer. -/
theorem soldValue_shownItems_le (tables : CleanTables) (sales : List Sale) :
    soldValue (shownItems tables sales) ≤
      soldValue ((withCustomer sales).flatMap fun sale => sale.purchase.items) := by
  rw [shownItems]
  induction withCustomer sales with
  | nil => exact le_refl _
  | cons sale rest ih =>
      rw [List.flatMap_cons, List.flatMap_cons, soldValue_append, soldValue_append]
      exact add_le_add (soldValue_filter_le sale _ _ fun _ member => member) ih

/-- Half a cent for each price, freight and payment of the sales with a customer. -/
def tolerance (sales : List Sale) : ℚ :=
  (2 * ((withCustomer sales).flatMap fun sale => sale.purchase.items).length +
    (withCustomer sales).length) / 200

/-- The values behind the product views and the payment views grow by the same sales. The product
views lose the items outside the catalogue, and apart from them both sides agree up to rounding. -/
structure SidesGrow (before after : CleanTables) (sales : List Sale) : Prop where
  items : itemTotal after = itemTotal before + soldValue (shownItems after sales)
  payments : paymentTotal after = paymentTotal before +
    paidValue ((withCustomer sales).map fun sale => sale.purchase.payment)
  bounded : itemTotal after - itemTotal before ≤
    paymentTotal after - paymentTotal before + tolerance sales
  near : (∀ sale ∈ withCustomer sales, ∀ item ∈ sale.purchase.items,
      (toText item.productId).any (inCatalogue after) = true) →
    |(itemTotal after - itemTotal before) - (paymentTotal after - paymentTotal before)| ≤
      tolerance sales

theorem sidesGrow_of_totals {before after : CleanTables} {sales : List Sale}
    (items : itemTotal after = itemTotal before + soldValue (shownItems after sales))
    (payments : paymentTotal after = paymentTotal before +
      paidValue ((withCustomer sales).map fun sale => sale.purchase.payment)) :
    SidesGrow before after sales := by
  have gap := abs_le.mp (abs_gap_le (withCustomer sales))
  have fewer := soldValue_shownItems_le after sales
  refine ⟨items, payments, ?_, ?_⟩
  · rw [items, payments, tolerance]
    linarith
  · intro listed
    have all : shownItems after sales =
        (withCustomer sales).flatMap fun sale => sale.purchase.items := by
      apply List.flatMap_congr
      intro sale member
      exact List.filter_eq_self.mpr (listed sale member)
    rw [items, payments, all, tolerance, abs_le]
    constructor <;> linarith

end Totals

namespace ItemDelivery
variable {Thread : Type} [DecidableEq Thread] {run : GeneratedRun Thread}
  (delivery : ItemDelivery run) {sales : List Sale}

theorem itemTotal_of_sold (sold : Sold sales run.start run.pool.committed) :
    itemTotal delivery.tables =
      itemTotal run.startTables + soldValue (shownItems delivery.tables sales) := by
  have old : run.startTables.orderItems.rows.filter (countsItem delivery.tables) =
      run.startTables.orderItems.rows.filter (countsItem run.startTables) :=
    List.filter_congr (delivery.countsItem_old sold)
  have new := sumOf_items_of_sales delivery.tables sales (delivery.isPlaced_new sold)
  rw [itemTotal_eq, itemTotal_eq, sumOf_perm ((delivery.orderItems_perm sold).filter _),
    List.filter_append, old, ← new, sumOf, List.map_append, List.sum_append]
  rfl

theorem paymentTotal_of_sold (sold : Sold sales run.start run.pool.committed) :
    paymentTotal delivery.tables = paymentTotal run.startTables +
      paidValue ((withCustomer sales).map fun sale => sale.purchase.payment) := by
  have grown := GeneratedRun.joined_perm sold delivery.toSalesDelivery
  have total := sumOf_perm grown fun row => row.2.paymentValue
  rw [paymentTotal, ← sumOf_joined]
  refine total.trans ?_
  rw [sumOf, List.map_append, List.sum_append]
  rfl

end ItemDelivery

/-- In every interleaving in which no order has two valid items of one product, once the four jobs
have caught up, the product views and the payment views have grown by the same sales. -/
theorem GeneratedRun.product_views_follow_payment_views {Thread : Type} [DecidableEq Thread]
    (run : GeneratedRun Thread) (delivery : ItemDelivery run) :
    ∃ sales, Sold sales run.start run.pool.committed ∧
      SidesGrow run.startTables delivery.tables sales := by
  obtain ⟨sales, sold⟩ := run.exists_sales
  refine ⟨sales, sold, ?_⟩
  exact sidesGrow_of_totals (delivery.itemTotal_of_sold sold) (delivery.paymentTotal_of_sold sold)

section Example

def shopItems : ItemDelivery shopSells where
  toSalesDelivery := shopSales
  orderItems := rfl
  products := rfl
  single := shop_single

theorem shop_sides_grow : ∃ sales, Sold sales shopSells.start shopPool.committed ∧
    SidesGrow shopSells.startTables shopItems.tables sales :=
  shopSells.product_views_follow_payment_views shopItems

end Example

end OdsPipeline
