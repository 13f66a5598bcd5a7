import OdsPipeline.Library.Growth
import OdsPipeline.Proof.Balance
import OdsPipeline.Proof.Scheduler

namespace OdsPipeline
open Library

namespace Postgres

section Tables
variable {Row Key : Type} [DecidableEq Key] {keyOf : Row → Key}

/-- A reference to a stored row stays valid when rows are inserted. -/
theorem References.insert {reference : Option Key} {table : KeyedTable keyOf}
    (holds : References reference table) (row : Row) (fresh : table.lookup (keyOf row) = none) :
    References reference (table.commit (.insert row)) := by
  intro key named
  rw [KeyedTable.lookup_commit_insert table row key fresh]
  split
  · rfl
  · exact holds key named

theorem references_iff (reference : Option Key) (table : KeyedTable keyOf) :
    References reference table ↔ ∀ key ∈ reference, ∃ row ∈ table.rows, keyOf row = key := by
  apply forall₂_congr
  intro key named
  rw [Option.isSome_iff_exists]
  apply exists_congr
  intro row
  constructor
  · intro found
    exact table.lookup_eq_some key row found
  · rintro ⟨member, rfl⟩
    exact table.lookup_of_mem row member

end Tables

/-- The tables of a database only gain rows. -/
structure Grows (before after : Database) : Prop where
  orders : before.orders.rows <+: after.orders.rows
  orderItems : before.orderItems.rows <+: after.orderItems.rows
  payments : before.payments.rows <+: after.payments.rows
  customers : before.customers.rows <+: after.customers.rows
  products : before.products.rows <+: after.products.rows
  reviews : before.reviews = after.reviews

theorem Grows.refl (database : Database) : Grows database database :=
  ⟨List.prefix_refl _, List.prefix_refl _, List.prefix_refl _, List.prefix_refl _,
    List.prefix_refl _, rfl⟩

theorem Grows.trans {first second third : Database} (early : Grows first second)
    (late : Grows second third) : Grows first third where
  orders := early.orders.trans late.orders
  orderItems := early.orderItems.trans late.orderItems
  payments := early.payments.trans late.payments
  customers := early.customers.trans late.customers
  products := early.products.trans late.products
  reviews := early.reviews.trans late.reviews

theorem NewRow.Fits.grows {database : Database} {row : NewRow} (fits : row.Fits database) :
    Grows database (database.commit row.statement) := by
  have start := Grows.refl database
  cases row with
  | orders row =>
      exact { start with orders := ⟨[row], (KeyedTable.rows_commit_insert _ row fits.1).symm⟩ }
  | orderItems row =>
      exact { start with orderItems := ⟨[row], (KeyedTable.rows_commit_insert _ row fits.1).symm⟩ }
  | payments row =>
      exact { start with payments := ⟨[row], (KeyedTable.rows_commit_insert _ row fits.1).symm⟩ }
  | customers row =>
      exact { start with customers := ⟨[row], (KeyedTable.rows_commit_insert _ row fits).symm⟩ }
  | products row =>
      exact { start with products := ⟨[row], (KeyedTable.rows_commit_insert _ row fits).symm⟩ }

/-- A row that fits keeps each foreign key. -/
theorem Database.ForeignKeys.insert {database : Database} (keys : database.ForeignKeys)
    {row : NewRow} (fits : row.Fits database) :
    (database.commit row.statement).ForeignKeys := by
  cases row with
  | orders row =>
      obtain ⟨fresh, customer⟩ := fits
      have stored := KeyedTable.rows_commit_insert database.orders row fresh
      exact {
        ordersCustomer := by
          change ∀ other ∈ (database.orders.commit (.insert row)).rows, _
          rw [stored, List.forall_mem_append, List.forall_mem_singleton]
          exact ⟨keys.ordersCustomer, customer⟩
        orderItemsOrder := fun item member => (keys.orderItemsOrder item member).insert row fresh
        orderItemsProduct := keys.orderItemsProduct
        paymentsOrder := fun payment member => (keys.paymentsOrder payment member).insert row fresh
        reviewsOrder := fun review member => (keys.reviewsOrder review member).insert row fresh }
  | orderItems row =>
      obtain ⟨fresh, order, product⟩ := fits
      have stored := KeyedTable.rows_commit_insert database.orderItems row fresh
      exact {
        keys with
        orderItemsOrder := by
          change ∀ other ∈ (database.orderItems.commit (.insert row)).rows, _
          rw [stored, List.forall_mem_append, List.forall_mem_singleton]
          exact ⟨keys.orderItemsOrder, order⟩
        orderItemsProduct := by
          change ∀ other ∈ (database.orderItems.commit (.insert row)).rows, _
          rw [stored, List.forall_mem_append, List.forall_mem_singleton]
          exact ⟨keys.orderItemsProduct, product⟩ }
  | payments row =>
      obtain ⟨fresh, order⟩ := fits
      have stored := KeyedTable.rows_commit_insert database.payments row fresh
      exact {
        keys with
        paymentsOrder := by
          change ∀ other ∈ (database.payments.commit (.insert row)).rows, _
          rw [stored, List.forall_mem_append, List.forall_mem_singleton]
          exact ⟨keys.paymentsOrder, order⟩ }
  | customers row =>
      exact {
        keys with
        ordersCustomer := fun order member => (keys.ordersCustomer order member).insert row fits }
  | products row =>
      exact {
        keys with
        orderItemsProduct := fun item member =>
          (keys.orderItemsProduct item member).insert row fits }

theorem FitsAll.grows {database : Database} {rows : List NewRow} (fits : FitsAll database rows) :
    Grows database (database.addAll rows) := by
  induction rows generalizing database with
  | nil => exact .refl database
  | cons row rest ih => exact fits.1.grows.trans (ih fits.2)

/-- A transaction whose rows fit keeps each foreign key. -/
theorem Database.ForeignKeys.addAll {database : Database} (keys : database.ForeignKeys)
    {rows : List NewRow} (fits : FitsAll database rows) : (database.addAll rows).ForeignKeys := by
  induction rows generalizing database with
  | nil => exact keys
  | cons row rest ih => exact ih (keys.insert fits.1) fits.2

/-- The row of an order statement has the id of the statement. -/
theorem Insert.row_orders {orderId : String} {customerId : Option String} {orderStatus : String}
    {purchase : Timestamp} {estimated : Option Timestamp} {row : NewRow}
    (known : (Insert.orders orderId customerId orderStatus purchase estimated).row = .ok row) :
    ∃ order, row = .orders order ∧ assignVarchar 50 orderId = .ok order.orderId ∧
      assignNullable 50 customerId = .ok order.customerId ∧
      assignNullable 20 (some orderStatus) = .ok order.orderStatus ∧
      order.orderPurchaseTimestamp = some purchase ∧ order.orderDeliveredCustomerDate = none ∧
      order.isDeleted = some false := by
  simp only [Insert.row, bind_eq_ok_iff] at known
  obtain ⟨id, assigned, customer, named, status, given, same⟩ := known
  cases same
  refine ⟨_, rfl, assigned, named, ?_, rfl, rfl, rfl⟩
  rw [assignNullable, given]
  rfl

theorem Insert.row_orderItems {id : Nat} {orderId : String} {productId : Option String}
    {price freightValue : ℚ} {row : NewRow}
    (known : (Insert.orderItems id orderId productId price freightValue).row = .ok row) :
    ∃ item, row = .orderItems item ∧ item.id = id ∧
      assignNullable 50 (some orderId) = .ok item.orderId ∧
      assignNullable 50 productId = .ok item.productId ∧ item.price = some price ∧
      item.freightValue = some freightValue ∧ item.isDeleted = some false := by
  simp only [Insert.row, bind_eq_ok_iff] at known
  obtain ⟨order, assigned, product, named, same⟩ := known
  cases same
  refine ⟨_, rfl, rfl, ?_, named, rfl, rfl, rfl⟩
  rw [assignNullable, assigned]
  rfl

theorem Insert.row_payments {id : Nat} {orderId paymentType : String} {paymentValue : ℚ}
    {row : NewRow} (known : (Insert.payments id orderId paymentType paymentValue).row = .ok row) :
    ∃ payment, row = .payments payment ∧ payment.id = id ∧
      assignNullable 50 (some orderId) = .ok payment.orderId ∧
      assignNullable 20 (some paymentType) = .ok payment.paymentType ∧
      payment.paymentValue = some paymentValue ∧ payment.isDeleted = some false := by
  simp only [Insert.row, bind_eq_ok_iff] at known
  obtain ⟨order, assigned, type, given, same⟩ := known
  cases same
  refine ⟨_, rfl, rfl, ?_, ?_, rfl, rfl⟩
  · rw [assignNullable, assigned]
    rfl
  · rw [assignNullable, given]
    rfl

theorem Insert.row_customers {customerId uniqueId city state : String} {row : NewRow}
    (known : (Insert.customers customerId uniqueId city state).row = .ok row) :
    ∃ customer, row = .customers customer ∧
      assignVarchar 50 customerId = .ok customer.customerId := by
  simp only [Insert.row, bind_eq_ok_iff] at known
  obtain ⟨id, assigned, _, -, _, -, _, -, same⟩ := known
  cases same
  exact ⟨_, rfl, assigned⟩

theorem Insert.row_products {productId categoryName : String} {row : NewRow}
    (known : (Insert.products productId categoryName).row = .ok row) :
    ∃ product, row = .products product ∧ assignVarchar 50 productId = .ok product.productId := by
  simp only [Insert.row, bind_eq_ok_iff] at known
  obtain ⟨id, assigned, _, -, same⟩ := known
  cases same
  exact ⟨_, rfl, assigned⟩

end Postgres

namespace DataGenerator
open Postgres Program

section Ids

/-- The statement of a new customer stores the id that its cache gets. -/
theorem exists_customer {draws : CustomerDraws} {row : NewRow}
    (known : (Insert.customers ("customer_" ++ toString draws.currentTimeMillis) draws.uniqueId
      draws.city (states.get draws.state)).row = .ok row) :
    ∃ customer, row = .customers customer ∧
      customer.customerId.val = "customer_" ++ toString draws.currentTimeMillis := by
  obtain ⟨customer, rfl, assigned⟩ := Insert.row_customers known
  refine ⟨customer, rfl, assignVarchar_eq 50 _ _ ?_ assigned⟩
  rw [String.toList_append, List.mem_append, not_or]
  exact ⟨by decide, space_notMem_toString_int _⟩

theorem exists_product {draws : ProductDraws} {row : NewRow}
    (known : (Insert.products ("product_" ++ toString draws.currentTimeMillis)
      (categories.get draws.category)).row = .ok row) :
    ∃ product, row = .products product ∧
      product.productId.val = "product_" ++ toString draws.currentTimeMillis := by
  obtain ⟨product, rfl, assigned⟩ := Insert.row_products known
  refine ⟨product, rfl, assignVarchar_eq 50 _ _ ?_ assigned⟩
  rw [String.toList_append, List.mem_append, not_or]
  exact ⟨by decide, space_notMem_toString_int _⟩

end Ids

section Sound

/-- Each cached id names a stored row, and the references of the database hold. -/
structure Sound (session : GeneratorSession) : Prop where
  foreignKeys : session.committed.ForeignKeys
  customers : ∀ id ∈ session.memory.existingCustomers,
    ∃ row ∈ session.committed.customers.rows, row.customerId.val = id
  products : ∀ id ∈ session.memory.existingProducts,
    ∃ row ∈ session.committed.products.rows, row.productId.val = id
  recentOrders : ∀ id ∈ session.memory.recentOrders,
    ∃ row ∈ session.committed.orders.rows, row.orderId.val = id
  few : session.memory.recentOrders.length ≤ 1000

/-- An id that names a row still names it when the table has gained rows. -/
theorem named_of_prefix {Row : Type} {before after : List Row} (part : before <+: after)
    {idOf : Row → String} {ids : List String}
    (named : ∀ id ∈ ids, ∃ row ∈ before, idOf row = id) :
    ∀ id ∈ ids, ∃ row ∈ after, idOf row = id := by
  intro id member
  obtain ⟨row, stored, same⟩ := named id member
  exact ⟨row, part.subset stored, same⟩

/-- The rows that a call adds fit one after another. -/
theorem Moves.exists_rows {session next : GeneratorSession} (moves : Moves session next) :
    ∃ rows, FitsAll session.committed rows ∧ next.committed = session.committed.addAll rows := by
  cases moves with
  | idle store memory => exact ⟨[], trivial, store⟩
  | order draws rows known fits store memory => exact ⟨rows, fits, store⟩
  | test draws rows known fits store memory => exact ⟨rows, fits, store⟩
  | customer draws row known fits store memory => exact ⟨[row], ⟨fits, trivial⟩, store⟩
  | product draws row known fits store memory => exact ⟨[row], ⟨fits, trivial⟩, store⟩

theorem Moves.grows {session next : GeneratorSession} (moves : Moves session next) :
    Grows session.committed next.committed := by
  obtain ⟨rows, fits, store⟩ := moves.exists_rows
  rw [store]
  exact fits.grows

theorem Moves.foreignKeys {session next : GeneratorSession} (moves : Moves session next)
    (keys : session.committed.ForeignKeys) : next.committed.ForeignKeys := by
  obtain ⟨rows, fits, store⟩ := moves.exists_rows
  rw [store]
  exact keys.addAll fits

theorem Moves.existingCustomers {session next : GeneratorSession} (moves : Moves session next)
    (sound : Sound session) : ∀ id ∈ next.memory.existingCustomers,
      ∃ row ∈ next.committed.customers.rows, row.customerId.val = id := by
  have kept := named_of_prefix moves.grows.customers sound.customers
  cases moves with
  | idle store memory => rwa [memory]
  | order draws rows known fits store memory => rwa [memory]
  | test draws rows known fits store memory => rwa [memory]
  | product draws row known fits store memory => rwa [memory]
  | customer draws row known fits store memory =>
      obtain ⟨customer, rfl, id⟩ := exists_customer known
      rw [memory, List.forall_mem_append, List.forall_mem_singleton]
      refine ⟨kept, customer, ?_, id⟩
      rw [store]
      change customer ∈ (session.committed.customers.commit (.insert customer)).rows
      rw [KeyedTable.rows_commit_insert _ customer fits]
      exact List.mem_append_right _ (List.mem_singleton.mpr rfl)

theorem Moves.existingProducts {session next : GeneratorSession} (moves : Moves session next)
    (sound : Sound session) : ∀ id ∈ next.memory.existingProducts,
      ∃ row ∈ next.committed.products.rows, row.productId.val = id := by
  have kept := named_of_prefix moves.grows.products sound.products
  cases moves with
  | idle store memory => rwa [memory]
  | order draws rows known fits store memory => rwa [memory]
  | test draws rows known fits store memory => rwa [memory]
  | customer draws row known fits store memory => rwa [memory]
  | product draws row known fits store memory =>
      obtain ⟨product, rfl, id⟩ := exists_product known
      rw [memory, List.forall_mem_append, List.forall_mem_singleton]
      refine ⟨kept, product, ?_, id⟩
      rw [store]
      change product ∈ (session.committed.products.commit (.insert product)).rows
      rw [KeyedTable.rows_commit_insert _ product fits]
      exact List.mem_append_right _ (List.mem_singleton.mpr rfl)

/-- The list drops its oldest order when it has more than 1000. -/
theorem mem_addRecentOrder (orderId id : String) (generator : Generator)
    (member : id ∈ (addRecentOrder orderId generator).recentOrders) :
    id ∈ generator.recentOrders ∨ id = orderId := by
  unfold addRecentOrder at member
  dsimp only at member
  rw [← List.mem_singleton, ← List.mem_append]
  split at member
  · exact List.mem_of_mem_tail member
  · exact member

theorem length_addRecentOrder (orderId : String) (generator : Generator)
    (few : generator.recentOrders.length ≤ 1000) :
    (addRecentOrder orderId generator).recentOrders.length ≤ 1000 := by
  unfold addRecentOrder
  dsimp only
  split
  · rw [List.length_tail, List.length_append, List.length_singleton]
    omega
  · next short => exact Nat.le_of_not_lt short

theorem Moves.recentOrders {session next : GeneratorSession} (moves : Moves session next)
    (sound : Sound session) : ∀ id ∈ next.memory.recentOrders,
      ∃ row ∈ next.committed.orders.rows, row.orderId.val = id := by
  have kept := named_of_prefix moves.grows.orders sound.recentOrders
  cases moves with
  | idle store memory => rwa [memory]
  | test draws rows known fits store memory => rwa [memory]
  | customer draws row known fits store memory => rwa [memory]
  | product draws row known fits store memory => rwa [memory]
  | order draws rows known fits store memory =>
      intro id member
      rw [memory] at member
      rcases mem_addRecentOrder _ _ _ member with old | rfl
      · exact kept id old
      · cases known with
        | cons first rest =>
            obtain ⟨order, rfl, assigned, -⟩ := Insert.row_orders first
            refine ⟨order, ?_, assignVarchar_eq 50 _ _ (space_notMem_orderId draws) assigned⟩
            rw [store]
            apply (FitsAll.grows fits.2).orders.subset
            change order ∈ (session.committed.orders.commit (.insert order)).rows
            rw [KeyedTable.rows_commit_insert _ order fits.1.1]
            exact List.mem_append_right _ (List.mem_singleton.mpr rfl)

theorem Moves.few {session next : GeneratorSession} (moves : Moves session next)
    (few : session.memory.recentOrders.length ≤ 1000) :
    next.memory.recentOrders.length ≤ 1000 := by
  cases moves with
  | idle store memory => rwa [memory]
  | test draws rows known fits store memory => rwa [memory]
  | customer draws row known fits store memory => rwa [memory]
  | product draws row known fits store memory => rwa [memory]
  | order draws rows known fits store memory =>
      rw [memory]
      exact length_addRecentOrder _ _ few

theorem Sound.moves {session next : GeneratorSession} (sound : Sound session)
    (moves : Moves session next) : Sound next where
  foreignKeys := moves.foreignKeys sound.foreignKeys
  customers := moves.existingCustomers sound
  products := moves.existingProducts sound
  recentOrders := moves.recentOrders sound
  few := moves.few sound.few

/-- A property that each call keeps holds after each run of tasks. -/
theorem runTasks_keeps {invariant : GeneratorSession → Prop}
    (step : ∀ session next, invariant session → Moves session next → invariant next)
    (session : GeneratorSession) (start : invariant session) (tasks : List Task) :
    invariant (runTasks session tasks) := by
  have path := runTasks_follows session tasks
  generalize runTasks session tasks = reached at path
  induction path with
  | refl => exact start
  | tail _ moves ih => exact step _ _ ih moves

theorem mem_readIds {ids : List String} {fault : Option Nat} {id : String}
    (member : id ∈ readIds ids fault) : id ∈ ids := by
  unfold readIds at member
  cases fault with
  | none => exact List.mem_of_mem_take member
  | some count => exact List.mem_of_mem_take (List.mem_of_mem_take member)

/-- The caches of the start name stored rows, whatever stops the two SELECT statements. -/
theorem sound_main (database : Database) (reads : CacheReads database)
    (keys : database.ForeignKeys) : Sound (main database reads) where
  foreignKeys := keys
  customers := by
    intro id member
    change id ∈ (if _ then _ else _) at member
    split at member
    · cases member
    · obtain ⟨row, inside, same⟩ := List.mem_map.mp (mem_readIds member)
      exact ⟨row, reads.customersOrder.subset inside, same⟩
  products := by
    intro id member
    change id ∈ (if _ then _ else _) at member
    split at member
    · cases member
    · obtain ⟨row, inside, same⟩ := List.mem_map.mp (mem_readIds member)
      exact ⟨row, reads.productsOrder.subset inside, same⟩
  recentOrders := List.forall_mem_nil _
  few := Nat.zero_le _

/-- A database whose foreign keys hold. -/
structure ValidDatabase where
  database : Database
  foreignKeys : database.ForeignKeys

/-- In every run of the scheduler, with its tasks one after another, the foreign keys hold, each
cached customer, product and recent order is stored, and at most 1000 orders are cached. -/
theorem scheduler_keeps_sound (valid : ValidDatabase) (reads : CacheReads valid.database)
    (tasks : List Task) : Sound (runTasks (main valid.database reads) tasks) :=
  runTasks_keeps (fun _ _ sound moves => sound.moves moves) _
    (sound_main valid.database reads valid.foreignKeys) tasks

end Sound

section Example

/-- A shop has one customer and one product. -/
def stock : List Statement := [
  .customers (.insert ⟨customerOne, some personOne, some lima, some saoPaulo, some false⟩),
  .products (.insert ⟨productOne, some toys, some false⟩)]

def shop : ValidDatabase where
  database := Database.empty.commitAll stock
  foreignKeys := ⟨by decide, by decide, by decide, by decide, by decide⟩

def shopReads : CacheReads shop.database where
  customers := shop.database.customers.rows
  products := shop.database.products.rows
  customersOrder := .refl _
  productsOrder := .refl _
  connectFault := false
  customersFault := none
  productsFault := none

/-- The ids come from the caches. -/
def knownId : IdDraws := { fourTenths.customer with chance := ⟨2 / 3, by decide +kernel⟩ }

def shopDraws : OrderDraws := { fourTenths with
  customer := knownId
  item := fun i => { fourTenths.item i with product := knownId } }

def visitor : CustomerDraws := ⟨7, "u2", "Lima", ⟨0, by decide⟩, none, none⟩

/-- The second order of the batch has the id of the first one and ends the batch. -/
theorem shop_keeps_sound : Sound (runTasks (main shop.database shopReads)
    [.customer visitor, .orderBatch fun _ => shopDraws]) :=
  scheduler_keeps_sound shop shopReads _

end Example

end DataGenerator

end OdsPipeline
