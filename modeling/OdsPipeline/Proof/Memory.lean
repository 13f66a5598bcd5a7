import OdsPipeline.Library.Window
import OdsPipeline.Proof.Caches
import OdsPipeline.Proof.LatencyTest
import OdsPipeline.Proof.SourceRows

namespace OdsPipeline.DataGenerator
open Library Postgres

section Ids

/-- The id of a latency test. Such an order is in no cache. -/
def isTestId (id : String) : Bool := "latency_test_".toList.isPrefixOf id.toList

theorem isTestId_testOrderId (draws : TestDraws) : isTestId draws.testOrderId = true := by
  rw [isTestId, List.isPrefixOf_iff_prefix, TestDraws.testOrderId, String.toList_append]
  exact List.prefix_append _ _

theorem isTestId_orderId (draws : OrderDraws) : isTestId draws.orderId = false := by
  have begins : draws.orderId.toList = 'o' :: ("rder_".toList ++
      (toString draws.currentTimeMillis ++ "_" ++ toString draws.orderNumber.val).toList) := by
    simp [OrderDraws.orderId]
  rw [isTestId, begins]
  rfl

end Ids

section Rows
variable {Row : Type} (pick : NewRow → Option Row)

/-- Statements of other tables add no row to a table. -/
theorem filterMap_of_known {inserts : List (Option SqlError × Insert)} {rows : List NewRow}
    (known : List.Forall₂ (fun insert row => insert.2.row = .ok row) inserts rows)
    (others : ∀ insert ∈ inserts, ∀ row, insert.2.row = .ok row → pick row = none) :
    rows.filterMap pick = [] := by
  induction known with
  | nil => rfl
  | cons first _ ih =>
      obtain ⟨other, rest⟩ := List.forall_mem_cons.mp others
      rw [List.filterMap_cons_none (other _ first), ih rest]

/-- The statement writes an item or a payment. -/
def IsLine : Insert → Prop
  | .orderItems .. => True
  | .payments .. => True
  | _ => False

theorem not_picked_of_isLine {insert : Insert} {row : NewRow} (line : IsLine insert)
    (known : insert.row = .ok row) :
    row.ordersRow = none ∧ row.customersRow = none ∧ row.productsRow = none := by
  cases insert with
  | orderItems =>
      obtain ⟨item, rfl, -⟩ := Insert.row_orderItems known
      exact ⟨rfl, rfl, rfl⟩
  | payments =>
      obtain ⟨payment, rfl, -⟩ := Insert.row_payments known
      exact ⟨rfl, rfl, rfl⟩
  | orders => cases line
  | customers => cases line
  | products => cases line

/-- A purchase adds one order, and no customer or product. -/
theorem rows_of_purchase {fault : Option SqlError} {orderId status : String}
    {customerId : Option String} {purchase : Timestamp} {estimated : Option Timestamp}
    {lines : List (Option SqlError × Insert)} {rows : List NewRow}
    (known : List.Forall₂ (fun insert row => insert.2.row = .ok row)
      ((fault, .orders orderId customerId status purchase estimated) :: lines) rows)
    (areLines : ∀ insert ∈ lines, IsLine insert.2) :
    ∃ order : OrdersRow, assignVarchar 50 orderId = .ok order.orderId ∧
      rows.filterMap NewRow.ordersRow = [order] ∧ rows.filterMap NewRow.customersRow = [] ∧
      rows.filterMap NewRow.productsRow = [] := by
  cases known with
  | cons first rest =>
      obtain ⟨order, rfl, assigned, -⟩ := Insert.row_orders first
      have orders := filterMap_of_known NewRow.ordersRow rest fun insert member _ stored =>
        (not_picked_of_isLine (areLines insert member) stored).1
      have customers := filterMap_of_known NewRow.customersRow rest fun insert member _ stored =>
        (not_picked_of_isLine (areLines insert member) stored).2.1
      have products := filterMap_of_known NewRow.productsRow rest fun insert member _ stored =>
        (not_picked_of_isLine (areLines insert member) stored).2.2
      refine ⟨order, assigned, ?_, ?_, ?_⟩
      · exact congrArg (order :: ·) orders
      · exact customers
      · exact products

end Rows

section Recalls

/-- The caches have the ids of the new rows behind their ids of the start, and of the new orders
only the last 1000 that no test has placed. -/
structure Recalls (start session : GeneratorSession) : Prop where
  customers : ∃ rows, session.committed.customers.rows = start.committed.customers.rows ++ rows ∧
    session.memory.existingCustomers =
      start.memory.existingCustomers ++ rows.map fun row => row.customerId.val
  products : ∃ rows, session.committed.products.rows = start.committed.products.rows ++ rows ∧
    session.memory.existingProducts =
      start.memory.existingProducts ++ rows.map fun row => row.productId.val
  orders : ∃ rows, session.committed.orders.rows = start.committed.orders.rows ++ rows ∧
    session.memory.recentOrders =
      ((rows.map fun row => row.orderId.val).filter fun id => !isTestId id).rtake 1000

/-- What a call adds to the three tables and to the caches. -/
structure Extends (session next : GeneratorSession) (customers : List CustomersRow)
    (products : List ProductsRow) (orders : List OrdersRow) : Prop where
  customersRows : next.committed.customers.rows = session.committed.customers.rows ++ customers
  productsRows : next.committed.products.rows = session.committed.products.rows ++ products
  ordersRows : next.committed.orders.rows = session.committed.orders.rows ++ orders
  existingCustomers : next.memory.existingCustomers =
    session.memory.existingCustomers ++ customers.map fun row => row.customerId.val
  existingProducts : next.memory.existingProducts =
    session.memory.existingProducts ++ products.map fun row => row.productId.val
  recentOrders : next.memory.recentOrders =
    ((orders.map fun row => row.orderId.val).filter fun id => !isTestId id).foldl
      (pushBounded 1000) session.memory.recentOrders

theorem extends_addAll {session next : GeneratorSession} (rows : List NewRow)
    {customers : List CustomersRow} {products : List ProductsRow} {orders : List OrdersRow}
    (fits : FitsAll session.committed rows) (store : next.committed = session.committed.addAll rows)
    (isCustomers : rows.filterMap NewRow.customersRow = customers)
    (isProducts : rows.filterMap NewRow.productsRow = products)
    (isOrders : rows.filterMap NewRow.ordersRow = orders)
    (existingCustomers : next.memory.existingCustomers =
      session.memory.existingCustomers ++ customers.map fun row => row.customerId.val)
    (existingProducts : next.memory.existingProducts =
      session.memory.existingProducts ++ products.map fun row => row.productId.val)
    (recentOrders : next.memory.recentOrders =
      ((orders.map fun row => row.orderId.val).filter fun id => !isTestId id).foldl
        (pushBounded 1000) session.memory.recentOrders) :
    Extends session next customers products orders where
  customersRows := by
    rw [store, ← isCustomers]
    exact customersFeed_reads.rows_addAll fits
  productsRows := by
    rw [store, ← isProducts]
    exact productsFeed_reads.rows_addAll fits
  ordersRows := by
    rw [store, ← isOrders]
    exact ordersFeed_reads.rows_addAll fits
  existingCustomers := existingCustomers
  existingProducts := existingProducts
  recentOrders := recentOrders

theorem Moves.extends {session next : GeneratorSession} (moves : Moves session next) :
    ∃ customers products orders, Extends session next customers products orders := by
  cases moves with
  | idle store memory =>
      refine ⟨[], [], [], extends_addAll [] trivial store rfl rfl rfl ?_ ?_ ?_⟩
      · rw [memory, List.map_nil, List.append_nil]
      · rw [memory, List.map_nil, List.append_nil]
      · rw [memory]
        rfl
  | order draws rows known fits store memory =>
      obtain ⟨order, assigned, orders, customers, products⟩ := rows_of_purchase known (by
        intro insert member
        rcases List.mem_append.mp member with inside | last
        · obtain ⟨i, -, rfl⟩ := List.mem_map.mp inside
          trivial
        · cases List.mem_singleton.mp last
          trivial)
      refine ⟨[], [], [order], extends_addAll rows fits store customers products orders ?_ ?_ ?_⟩
      · rw [memory, List.map_nil, List.append_nil]
        rfl
      · rw [memory, List.map_nil, List.append_nil]
        rfl
      · have id := assignVarchar_eq 50 _ _ (space_notMem_orderId draws) assigned
        rw [memory, List.map_singleton, id, List.filter_cons_of_pos (by rw [isTestId_orderId]; rfl)]
        rfl
  | test draws rows known fits store memory =>
      obtain ⟨order, assigned, orders, customers, products⟩ := rows_of_purchase known (by
        rw [List.forall_mem_cons, List.forall_mem_singleton]
        exact ⟨trivial, trivial⟩)
      refine ⟨[], [], [order], extends_addAll rows fits store customers products orders ?_ ?_ ?_⟩
      · rw [memory, List.map_nil, List.append_nil]
      · rw [memory, List.map_nil, List.append_nil]
      · have id := assignVarchar_eq 50 _ _ (space_notMem_testOrderId draws) assigned
        rw [memory, List.map_singleton, id,
          List.filter_cons_of_neg (by rw [isTestId_testOrderId]; decide)]
        rfl
  | customer draws row known fits store memory =>
      obtain ⟨customer, rfl, id⟩ := exists_customer known
      refine ⟨[customer], [], [], extends_addAll [.customers customer] ⟨fits, trivial⟩ store
        rfl rfl rfl ?_ ?_ ?_⟩
      · rw [memory, List.map_singleton, id]
      · rw [memory, List.map_nil, List.append_nil]
      · rw [memory]
        rfl
  | product draws row known fits store memory =>
      obtain ⟨product, rfl, id⟩ := exists_product known
      refine ⟨[], [product], [], extends_addAll [.products product] ⟨fits, trivial⟩ store
        rfl rfl rfl ?_ ?_ ?_⟩
      · rw [memory, List.map_nil, List.append_nil]
      · rw [memory, List.map_singleton, id]
      · rw [memory]
        rfl

theorem Extends.trans {first second third : GeneratorSession}
    {customers laterCustomers : List CustomersRow} {products laterProducts : List ProductsRow}
    {orders laterOrders : List OrdersRow} (early : Extends first second customers products orders)
    (late : Extends second third laterCustomers laterProducts laterOrders) :
    Extends first third (customers ++ laterCustomers) (products ++ laterProducts)
      (orders ++ laterOrders) where
  customersRows := by rw [late.customersRows, early.customersRows, List.append_assoc]
  productsRows := by rw [late.productsRows, early.productsRows, List.append_assoc]
  ordersRows := by rw [late.ordersRows, early.ordersRows, List.append_assoc]
  existingCustomers := by
    rw [late.existingCustomers, early.existingCustomers, List.append_assoc, List.map_append]
  existingProducts := by
    rw [late.existingProducts, early.existingProducts, List.append_assoc, List.map_append]
  recentOrders := by
    rw [late.recentOrders, early.recentOrders, List.map_append, List.filter_append,
      List.foldl_append]

/-- A run of calls adds rows to the tables and their ids to the caches. -/
theorem exists_extends {session next : GeneratorSession}
    (path : Relation.ReflTransGen Moves session next) :
    ∃ customers products orders, Extends session next customers products orders := by
  induction path with
  | refl => exact Moves.extends (.idle rfl rfl)
  | tail _ moves ih =>
      obtain ⟨customers, products, orders, early⟩ := ih
      obtain ⟨laterCustomers, laterProducts, laterOrders, late⟩ := moves.extends
      exact ⟨_, _, _, early.trans late⟩

/-- In every run of the scheduler, with its tasks one after another, the caches have exactly the ids
of the start and of the rows that the generator has added, and the recent orders are the last 1000
that no test has placed. -/
theorem caches_follow_database (database : Database) (reads : CacheReads database)
    (tasks : List Task) :
    Recalls (main database reads) (runTasks (main database reads) tasks) := by
  obtain ⟨customers, products, orders, grown⟩ := exists_extends (runTasks_follows _ tasks)
  refine ⟨⟨customers, grown.customersRows, grown.existingCustomers⟩,
    ⟨products, grown.productsRows, grown.existingProducts⟩, orders, grown.ordersRows, ?_⟩
  rw [grown.recentOrders]
  exact foldl_pushBounded 1000 (by decide) _

theorem shop_recalls : Recalls (main shop.database shopReads) (runTasks (main shop.database shopReads)
    [.customer visitor, .orderBatch fun _ => shopDraws]) :=
  caches_follow_database shop.database shopReads _

end Recalls

end OdsPipeline.DataGenerator
