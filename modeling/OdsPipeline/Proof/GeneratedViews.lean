import OdsPipeline.Library.Pairing
import OdsPipeline.Proof.GeneratedRows
import OdsPipeline.Proof.GeneratedRuns
import OdsPipeline.Proof.ViewTotals

namespace OdsPipeline
open Library SqlQueries Postgres OdsETLJob DataGenerator StarRocks MaterializedViews

namespace Feed
variable {Row Key Source Data Columns CleanKey ErrorKey Stored : Type} [DecidableEq Key]
  [DecidableEq CleanKey] (feed : Feed Row Key Source Data Columns CleanKey ErrorKey)

/-- The row that a clean table stores for a source row. -/
def store (ofData : Data → Option Stored) (row : Row) : Option Stored :=
  if feed.passes row = true then ofData (feed.cleanData row) else none

theorem stored_eq (ofData : Data → Option Stored) (database : Database) :
    feed.stored ofData database = (feed.source database).rows.filterMap (feed.store ofData) := by
  rw [stored, List.filterMap_map, List.filterMap_filter]
  rfl

end Feed

namespace DataGenerator.Sale
variable (sale : Sale)

/-- A sale with a customer reaches the clean orders. -/
def storedOrder : Option OdsOrders := do
  return {
    orderId := sale.orderId
    customerId := ← toText sale.purchase.order.customerId
    orderStatus := ← toText sale.purchase.order.orderStatus
    orderPurchaseTimestamp := ← sale.purchase.order.orderPurchaseTimestamp
    orderDeliveredCustomerDate := none
    orderEstimatedDeliveryDate := sale.purchase.order.orderEstimatedDeliveryDate
    isDeleted := false }

/-- The payment of a sale reaches the clean payments. -/
def storedPayment : Option OdsPayments := do
  return {
    orderId := sale.orderId
    paymentType := ← toText sale.purchase.payment.paymentType
    paymentValue := ← sale.purchase.payment.paymentValue
    isDeleted := false }

theorem store_order : ordersFeed.store OdsOrders.ofData sale.purchase.order = sale.storedOrder := by
  cases named : sale.purchase.order.customerId with
  | none =>
      have rejected : ¬ ordersFeed.passes sale.purchase.order = true := fun passes =>
        (order_routesError sale.purchase named).2.1 (of_decide_eq_true passes)
      rw [Feed.store, if_neg rejected, storedOrder, named]
      rfl
  | some customer =>
      have known : sale.purchase.order.customerId ≠ none := by
        rw [named]
        exact Option.some_ne_none _
      have passes : ordersFeed.passes sale.purchase.order = true :=
        decide_eq_true (order_routesClean sale.purchase known).1
      rw [Feed.store, if_pos passes]
      obtain ⟨status, -, isStatus⟩ := sale.purchase.status
      obtain ⟨time, purchased⟩ := Option.isSome_iff_exists.mp sale.purchase.purchased
      rw [storedOrder, named, isStatus, purchased]
      apply (OdsOrders.ofData_eq_some_iff _ _).mpr
      refine ⟨congrArg some sale.purchase.id, congrArg toText named, isStatus, purchased, ?_, rfl, ?_⟩
      · exact sale.undelivered
      · exact sale.liveOrder

theorem store_payment :
    paymentsFeed.store OdsPayments.ofData sale.purchase.payment = sale.storedPayment := by
  have passes : paymentsFeed.passes sale.purchase.payment = true :=
    decide_eq_true (payment_routesClean sale.purchase).1
  obtain ⟨type, -, isType⟩ := sale.purchase.paymentType
  obtain ⟨value, isValue, -⟩ := sale.purchase.paymentValue
  rw [Feed.store, if_pos passes, storedPayment, isType, isValue]
  apply (OdsPayments.ofData_eq_some_iff _ _).mpr
  exact ⟨sale.purchase.paymentOrder, isType, isValue, sale.livePayment⟩

theorem orderId_storedOrder : ∀ o ∈ sale.storedOrder, o.orderId = sale.orderId := by
  intro o stored
  simp only [storedOrder, Option.bind_eq_bind, Option.mem_def, Option.bind_eq_some_iff,
    Option.pure_def, Option.some.injEq] at stored
  obtain ⟨_, -, _, -, _, -, rfl⟩ := stored
  rfl

theorem orderId_storedPayment : ∀ p ∈ sale.storedPayment, p.orderId = sale.orderId := by
  intro p stored
  simp only [storedPayment, Option.bind_eq_bind, Option.mem_def, Option.bind_eq_some_iff,
    Option.pure_def, Option.some.injEq] at stored
  obtain ⟨_, -, _, -, rfl⟩ := stored
  rfl

/-- The row that a sale adds to the joined orders and payments. -/
def joined : Option (OdsOrders × OdsPayments) := paired storedOrder storedPayment sale

/-- The rows of a sale are live. -/
theorem live_joined : ∀ row ∈ sale.joined, (!row.1.isDeleted && !row.2.isDeleted) = true := by
  intro row member
  simp only [joined, paired, storedOrder, storedPayment, Option.bind_eq_bind, Option.mem_def,
    Option.bind_eq_some_iff, Option.pure_def, Option.some.injEq] at member
  obtain ⟨_, ⟨_, -, _, -, _, -, rfl⟩, _, ⟨_, -, _, -, rfl⟩, rfl⟩ := member
  rfl

end DataGenerator.Sale

section Stored

/-- The stored orders of a database keep the ids of its orders. -/
theorem exists_order_of_stored {database : Database} {o : OdsOrders}
    (stored : o ∈ ordersFeed.stored OdsOrders.ofData database) :
    ∃ order ∈ database.orders.rows, order.orderId.val = o.orderId := by
  obtain ⟨data, inside, kept⟩ := List.mem_filterMap.mp stored
  obtain ⟨order, member, rfl⟩ := List.mem_map.mp inside
  exact ⟨order, List.mem_of_mem_filter member,
    Option.some.inj ((OdsOrders.ofData_eq_some_iff _ _).mp kept).1⟩

theorem exists_payment_of_stored {database : Database} {p : OdsPayments}
    (stored : p ∈ paymentsFeed.stored OdsPayments.ofData database) :
    ∃ payment ∈ database.payments.rows, toText payment.orderId = some p.orderId := by
  obtain ⟨data, inside, kept⟩ := List.mem_filterMap.mp stored
  obtain ⟨payment, member, rfl⟩ := List.mem_map.mp inside
  exact ⟨payment, List.mem_of_mem_filter member, ((OdsPayments.ofData_eq_some_iff _ _).mp kept).1⟩

theorem stored_orders_of_sold {sales : List Sale} {before after : Database}
    (sold : Sold sales before after) : ordersFeed.stored OdsOrders.ofData after =
      ordersFeed.stored OdsOrders.ofData before ++ sales.filterMap Sale.storedOrder := by
  have rows : (ordersFeed.source after).rows = _ := sold.orders
  rw [Feed.stored_eq, Feed.stored_eq, rows, List.filterMap_append, List.filterMap_map]
  congr 1
  exact List.filterMap_congr fun sale _ => sale.store_order

theorem stored_payments_of_sold {sales : List Sale} {before after : Database}
    (sold : Sold sales before after) : paymentsFeed.stored OdsPayments.ofData after =
      paymentsFeed.stored OdsPayments.ofData before ++ sales.filterMap Sale.storedPayment := by
  have rows : (paymentsFeed.source after).rows = _ := sold.payments
  rw [Feed.stored_eq, Feed.stored_eq, rows, List.filterMap_append, List.filterMap_map]
  congr 1
  exact List.filterMap_congr fun sale _ => sale.store_payment

end Stored

/-- The orders job and the payments job have read their whole changelogs. -/
structure SalesDelivery (history : List Statement) where
  records : List (Timestamp × OdsETLJob.Record)
  orders : ordersFeed.arrived records = ordersFeed.changelog history
  payments : paymentsFeed.arrived records = paymentsFeed.changelog history

def SalesDelivery.tables {history : List Statement} (delivery : SalesDelivery history) :
    CleanTables :=
  (OdsETLJob.main.run delivery.records).cleanTables

namespace GeneratedRun
variable {Thread : Type} [DecidableEq Thread] (run : GeneratedRun Thread)

/-- The clean tables on which the generator starts. -/
def startTables : CleanTables := run.earlier.validTables (.all run.earlier.history.length)

theorem startTables_orders :
    run.startTables.orders.rows = ordersFeed.stored OdsOrders.ofData run.start := by
  change ordersFeed.stored _ (Database.empty.commitAll (List.take _ _)) = _
  rw [Positions.all, List.take_length]
  rfl

theorem startTables_payments :
    run.startTables.payments.rows = paymentsFeed.stored OdsPayments.ofData run.start := by
  change paymentsFeed.stored _ (Database.empty.commitAll (List.take _ _)) = _
  rw [Positions.all, List.take_length]
  rfl

variable {run} {sales : List Sale}

/-- Each sale with a customer joins its own payment, and nothing else joins it. -/
theorem join_of_sold (sold : Sold sales run.start run.pool.committed) :
    join (run.startTables.orders.rows ++ sales.filterMap Sale.storedOrder)
        (run.startTables.payments.rows ++ sales.filterMap Sale.storedPayment)
        (fun o p => o.orderId = p.orderId) =
      join run.startTables.orders.rows run.startTables.payments.rows
        (fun o p => o.orderId = p.orderId) ++ sales.filterMap Sale.joined := by
  obtain ⟨-, distinct, apart⟩ := List.nodup_append'.mp (distinct_sales sold)
  rw [join_append, join_filterMap sales Sale.orderId _ Sale.storedOrder Sale.storedPayment
    OdsOrders.orderId OdsPayments.orderId Sale.orderId_storedOrder Sale.orderId_storedPayment]
  · rfl
  · have texts := distinct.map Subtype.val_injective
    rw [List.map_map] at texts
    have named : Subtype.val ∘ (fun sale : Sale => sale.purchase.order.orderId) = Sale.orderId :=
      funext fun sale => sale.purchase.id
    rwa [named] at texts
  · intro o old p new same
    rw [startTables_orders] at old
    obtain ⟨order, stored, orderId⟩ := exists_order_of_stored old
    obtain ⟨sale, member, paid⟩ := List.mem_filterMap.mp new
    have ofSale : order.orderId = sale.purchase.order.orderId := by
      apply Subtype.ext
      rw [orderId, of_decide_eq_true same, sale.orderId_storedPayment p paid, sale.purchase.id]
    apply apart (List.mem_map_of_mem stored)
    rw [ofSale]
    exact List.mem_map_of_mem member
  · intro o new p old same
    rw [startTables_payments] at old
    obtain ⟨payment, stored, orderId⟩ := exists_payment_of_stored old
    obtain ⟨sale, member, placed⟩ := List.mem_filterMap.mp new
    apply unpaid_at_start sold payment stored sale member
    rw [orderId, ← of_decide_eq_true same, sale.orderId_storedOrder o placed]

/-- The payment views see the rows of the start and one row for each sale with a customer. -/
theorem joined_perm (sold : Sold sales run.start run.pool.committed)
    (delivery : SalesDelivery run.history) :
    (ordersWithPayments delivery.tables).Perm
      (ordersWithPayments run.startTables ++ sales.filterMap Sale.joined) := by
  have orders : delivery.tables.orders.rows.Perm (ordersFeed.stored OdsOrders.ofData _) :=
    (ordersFeed.holds_complete _ run.orders_unbroken _ delivery.orders).stored_perm OdsOrders.ofData
  have payments : delivery.tables.payments.rows.Perm
      (paymentsFeed.stored OdsPayments.ofData _) :=
    (paymentsFeed.holds_complete _ run.payments_unbroken _ delivery.payments).stored_perm
      OdsPayments.ofData
  rw [run.commitAll_history, stored_orders_of_sold sold, ← startTables_orders] at orders
  rw [run.commitAll_history, stored_payments_of_sold sold, ← startTables_payments] at payments
  have pairs := join_perm (fun (o : OdsOrders) (p : OdsPayments) => o.orderId = p.orderId) orders
    payments
  rw [join_of_sold sold] at pairs
  have live : (sales.filterMap Sale.joined).filter
      (fun row => !row.1.isDeleted && !row.2.isDeleted) = sales.filterMap Sale.joined := by
    rw [List.filter_eq_self]
    intro row member
    obtain ⟨sale, -, stored⟩ := List.mem_filterMap.mp member
    exact sale.live_joined row stored
  have kept := pairs.filter fun row => !row.1.isDeleted && !row.2.isDeleted
  rw [List.filter_append, live] at kept
  exact kept

end GeneratedRun

section Columns
variable {Row View Group Value : Type} [DecidableEq Group] [Zero Value]

/-- What a view shows for a group. A group without a row shows nothing. -/
def columnOf (view : List View) (groupOf : View → Group) (group : Group) (column : View → Value) :
    Value :=
  (view.find? fun row => groupOf row = group).elim 0 column

/-- A column shows the aggregate of the rows of its group. -/
theorem columnOf_groupBy (key : Row → Group) (aggregate : Group → List Row → View)
    (rows : List Row) (groupOf : View → Group)
    (named : ∀ group rows, groupOf (aggregate group rows) = group) (column : View → Value)
    (total : List Row → Value) (measured : ∀ group rows, column (aggregate group rows) = total rows)
    (nothing : total [] = 0) (group : Group) :
    columnOf (groupBy key aggregate rows) groupOf group column =
      total (rows.filter fun row => key row = group) := by
  rw [columnOf, elim_find_groupBy key aggregate rows _ (fun _ => Iff.rfl) groupOf named]
  split
  · next empty => rw [empty, nothing]
  · exact measured _ _

/-- What the daily view shows for a date. -/
def dailyColumn (tables : CleanTables) (date : Date) (column : DailyMetrics → Value) : Value :=
  columnOf (mvRealtimeDailyMetrics tables) DailyMetrics.orderDate date column

theorem dailyColumn_eq (tables : CleanTables) (date : Date) (column : DailyMetrics → Value)
    (total : List (OdsOrders × OdsPayments) → Value)
    {aggregate : Date → List (OdsOrders × OdsPayments) → DailyMetrics}
    (view : mvRealtimeDailyMetrics tables = groupBy
      (fun row => row.1.orderPurchaseTimestamp.date) aggregate (ordersWithPayments tables))
    (named : ∀ group rows, (aggregate group rows).orderDate = group)
    (measured : ∀ group rows, column (aggregate group rows) = total rows) (nothing : total [] = 0) :
    dailyColumn tables date column = total ((ordersWithPayments tables).filter fun row =>
      row.1.orderPurchaseTimestamp.date = date) := by
  rw [dailyColumn, view]
  exact columnOf_groupBy _ aggregate _ _ named column total measured nothing date

end Columns

section Sales

/-- The joined row of a sale has the values of its source rows. -/
structure DataGenerator.Sale.Shows (sale : Sale) (row : OdsOrders × OdsPayments) : Prop where
  customer : toText sale.purchase.order.customerId = some row.1.customerId
  status : toText sale.purchase.order.orderStatus = some row.1.orderStatus
  purchased : sale.purchase.order.orderPurchaseTimestamp = some row.1.orderPurchaseTimestamp
  undelivered : row.1.orderDeliveredCustomerDate = none
  type : toText sale.purchase.payment.paymentType = some row.2.paymentType
  value : sale.purchase.payment.paymentValue = some row.2.paymentValue

theorem DataGenerator.Sale.shows (sale : Sale) :
    ∀ row ∈ sale.joined, sale.Shows row := by
  intro row member
  simp only [joined, paired, storedOrder, storedPayment, Option.bind_eq_bind, Option.mem_def,
    Option.bind_eq_some_iff, Option.pure_def, Option.some.injEq] at member
  obtain ⟨_, ⟨_, customer, _, status, _, purchased, rfl⟩, _, ⟨_, type, _, value, rfl⟩, rfl⟩ := member
  exact ⟨customer, status, purchased, rfl, type, value⟩

theorem DataGenerator.Sale.Shows.isSome_customer {sale : Sale} {row : OdsOrders × OdsPayments}
    (shows : sale.Shows row) : sale.purchase.order.customerId.isSome = true := by
  rw [← Option.isSome_map, ← toText, shows.customer]
  rfl

theorem DataGenerator.Sale.exists_joined (sale : Sale)
    (customer : sale.purchase.order.customerId.isSome = true) : ∃ row, sale.joined = some row := by
  obtain ⟨customer, named⟩ := Option.isSome_iff_exists.mp customer
  obtain ⟨status, -, isStatus⟩ := sale.purchase.status
  obtain ⟨time, purchased⟩ := Option.isSome_iff_exists.mp sale.purchase.purchased
  obtain ⟨type, -, isType⟩ := sale.purchase.paymentType
  obtain ⟨value, isValue, -⟩ := sale.purchase.paymentValue
  rw [joined, paired, storedOrder, storedPayment, named, isStatus, purchased, isType, isValue]
  exact ⟨_, rfl⟩

section Groups
variable {Group : Type} [DecidableEq Group]

/-- The sale has a customer and lies in a group. -/
def DataGenerator.Sale.countsIn (groupOf : Sale → Option Group) (group : Group) (sale : Sale) :
    Bool :=
  sale.purchase.order.customerId.isSome && decide (groupOf sale = some group)

def salesIn (groupOf : Sale → Option Group) (group : Group) (sales : List Sale) : List Sale :=
  sales.filter (Sale.countsIn groupOf group)

/-- Sales lie in the groups of their joined rows. -/
def GroupsSales (key : OdsOrders × OdsPayments → Group) (groupOf : Sale → Option Group) : Prop :=
  ∀ sale row, sale.Shows row → groupOf sale = some (key row)

/-- The joined rows of a group are those of its sales. -/
theorem filter_joined {key : OdsOrders × OdsPayments → Group} {groupOf : Sale → Option Group}
    (groups : GroupsSales key groupOf) (group : Group) (sales : List Sale) :
    (sales.filterMap Sale.joined).filter (fun row => key row = group) =
      (salesIn groupOf group sales).filterMap Sale.joined := by
  induction sales with
  | nil => rfl
  | cons sale rest ih =>
      cases found : sale.joined with
      | none =>
          have skipped : ¬ sale.countsIn groupOf group = true := by
            intro counts
            obtain ⟨row, stored⟩ := sale.exists_joined (Bool.and_eq_true_iff.mp counts).1
            rw [found] at stored
            cases stored
          rw [List.filterMap_cons_none found, ih, salesIn, salesIn, List.filter_cons_of_neg skipped]
      | some row =>
          have shows := sale.shows row found
          rw [List.filterMap_cons_some found, List.filter_cons]
          have same : sale.countsIn groupOf group = decide (key row = group) := by
            rw [Sale.countsIn, shows.isSome_customer, groups sale row shows, Bool.true_and]
            exact decide_eq_decide.mpr Option.some_inj
          rw [salesIn, List.filter_cons, same]
          split
          · rw [List.filterMap_cons_some found]
            exact congrArg (row :: ·) ih
          · exact ih

/-- A value of the joined rows of a group is a value of its sales. -/
theorem map_joined {Value : Type} (groupOf : Sale → Option Group) (group : Group)
    (sales : List Sale) (value : OdsOrders × OdsPayments → Value) (saleValue : Sale → Value)
    (agree : ∀ sale row, sale.Shows row → value row = saleValue sale) :
    ((salesIn groupOf group sales).filterMap Sale.joined).map value =
      (salesIn groupOf group sales).map saleValue := by
  rw [List.map_filterMap, ← List.filterMap_eq_map]
  apply List.filterMap_congr
  intro sale member
  have customer := (Bool.and_eq_true_iff.mp (List.mem_filter.mp member).2).1
  obtain ⟨row, found⟩ := sale.exists_joined customer
  rw [found, Option.map_some, agree sale row (sale.shows row found)]
  rfl

/-- The joined rows of a group are as many as its sales. -/
theorem length_joined (groupOf : Sale → Option Group) (group : Group) (sales : List Sale) :
    ((salesIn groupOf group sales).filterMap Sale.joined).length =
      (salesIn groupOf group sales).length := by
  have sold := congrArg List.length (map_joined groupOf group sales (fun _ => ()) (fun _ => ())
    fun _ _ _ => rfl)
  rwa [List.length_map, List.length_map] at sold

/-- A count of the joined rows of a group counts its sales. -/
theorem countWhen_sales (groupOf : Sale → Option Group) (group : Group) (sales : List Sale)
    (test : OdsOrders → Truth) (saleTest : Sale → Bool)
    (agree : ∀ sale row, sale.Shows row → decide (test row.1 = .true) = saleTest sale) :
    countWhen (fun row => test row.1) ((salesIn groupOf group sales).filterMap Sale.joined) =
      ((salesIn groupOf group sales).filter saleTest).length := by
  have values := congrArg (List.countP id) (map_joined groupOf group sales _ saleTest agree)
  rw [List.countP_map, List.countP_map] at values
  rw [countWhen, ← List.countP_eq_length_filter, ← List.countP_eq_length_filter]
  exact values

/-- The payments of the sales of a list. -/
def paidBy (sales : List Sale) : ℚ := paidValue (sales.map fun sale => sale.purchase.payment)

/-- The values of the joined rows of a group are the payments of its sales. -/
theorem sumOf_sales (groupOf : Sale → Option Group) (group : Group) (sales : List Sale) :
    sumOf (fun row => row.2.paymentValue) ((salesIn groupOf group sales).filterMap Sale.joined) =
      paidBy (salesIn groupOf group sales) := by
  have values := congrArg (List.filterMap id) (map_joined groupOf group sales
    (fun row => some row.2.paymentValue) (fun sale => sale.purchase.payment.paymentValue)
    fun sale row shows => shows.value.symm)
  rw [List.filterMap_map, List.filterMap_map] at values
  rw [sumOf, paidBy, paidValue, List.filterMap_map, ← List.filterMap_eq_map]
  exact congrArg List.sum values

end Groups

section Dates

def DataGenerator.Sale.date (sale : Sale) : Option Date :=
  sale.purchase.order.orderPurchaseTimestamp.map Timestamp.date

theorem groupsSales_date :
    GroupsSales (fun row => row.1.orderPurchaseTimestamp.date) Sale.date := by
  intro sale row shows
  rw [Sale.date, shows.purchased]
  rfl

/-- The sales with a customer whose order was placed on a date. -/
def salesOn (date : Date) (sales : List Sale) : List Sale := salesIn Sale.date date sales

end Dates

def DataGenerator.Sale.hasStatus (status : String) (sale : Sale) : Bool :=
  toText sale.purchase.order.orderStatus = some status

/-- The daily view counts the sales of a date once more than before, and none of them is late or
delivered at a known time. -/
structure DailyGrowth (before after : CleanTables) (sales : List Sale) (date : Date) : Prop where
  daily : dailyColumn after date DailyMetrics.dailyOrders =
    dailyColumn before date DailyMetrics.dailyOrders + (salesOn date sales).length
  delivered : dailyColumn after date DailyMetrics.deliveredOrders =
    dailyColumn before date DailyMetrics.deliveredOrders +
      ((salesOn date sales).filter (Sale.hasStatus "delivered")).length
  cancelled : dailyColumn after date DailyMetrics.cancelledOrders =
    dailyColumn before date DailyMetrics.cancelledOrders +
      ((salesOn date sales).filter (Sale.hasStatus "cancelled")).length
  shipped : dailyColumn after date DailyMetrics.shippedOrders =
    dailyColumn before date DailyMetrics.shippedOrders +
      ((salesOn date sales).filter (Sale.hasStatus "shipped")).length
  processing : dailyColumn after date DailyMetrics.processingOrders =
    dailyColumn before date DailyMetrics.processingOrders +
      ((salesOn date sales).filter (Sale.hasStatus "processing")).length
  late : dailyColumn after date DailyMetrics.lateDeliveryOrders =
    dailyColumn before date DailyMetrics.lateDeliveryOrders
  totalDelivered : dailyColumn after date DailyMetrics.totalDeliveredOrders =
    dailyColumn before date DailyMetrics.totalDeliveredOrders
  revenue : |dailyColumn after date DailyMetrics.dailyRevenue -
      (dailyColumn before date DailyMetrics.dailyRevenue +
        paidBy (salesOn date sales))| ≤ 1 / 100

section Growth
variable {before after : CleanTables} {sales : List Sale} {Group : Type} [DecidableEq Group]
  {key : OdsOrders × OdsPayments → Group} {groupOf : Sale → Option Group}

/-- The joined rows of a group grow by those of its sales. -/
theorem filter_grown (grown : (ordersWithPayments after).Perm
    (ordersWithPayments before ++ sales.filterMap Sale.joined))
    (groups : GroupsSales key groupOf) (group : Group) :
    ((ordersWithPayments after).filter fun row => key row = group).Perm
      (((ordersWithPayments before).filter fun row => key row = group) ++
        (salesIn groupOf group sales).filterMap Sale.joined) := by
  have kept := grown.filter fun row => decide (key row = group)
  rwa [List.filter_append, filter_joined groups] at kept

theorem length_grown (grown : (ordersWithPayments after).Perm
    (ordersWithPayments before ++ sales.filterMap Sale.joined))
    (groups : GroupsSales key groupOf) (group : Group) :
    ((ordersWithPayments after).filter fun row => key row = group).length =
      ((ordersWithPayments before).filter fun row => key row = group).length +
        (salesIn groupOf group sales).length := by
  rw [(filter_grown grown groups group).length_eq, List.length_append, length_joined]

theorem countWhen_append {Row : Type} (condition : Row → Truth) (first second : List Row) :
    countWhen condition (first ++ second) =
      countWhen condition first + countWhen condition second := by
  rw [countWhen, List.filter_append, List.length_append]
  rfl

/-- A conditional count of a group grows by the sales that meet the condition. -/
theorem countWhen_grown (grown : (ordersWithPayments after).Perm
    (ordersWithPayments before ++ sales.filterMap Sale.joined))
    (groups : GroupsSales key groupOf) (group : Group) (test : OdsOrders → Truth)
    (saleTest : Sale → Bool)
    (agree : ∀ sale row, sale.Shows row → decide (test row.1 = .true) = saleTest sale) :
    countWhen (fun row => test row.1)
        ((ordersWithPayments after).filter fun row => key row = group) =
      countWhen (fun row => test row.1)
          ((ordersWithPayments before).filter fun row => key row = group) +
        ((salesIn groupOf group sales).filter saleTest).length := by
  rw [countWhen_perm (filter_grown grown groups group), countWhen_append,
    countWhen_sales groupOf group sales test saleTest agree]

/-- The value of a group grows by the payments of its sales. -/
theorem sumOf_grown (grown : (ordersWithPayments after).Perm
    (ordersWithPayments before ++ sales.filterMap Sale.joined))
    (groups : GroupsSales key groupOf) (group : Group) :
    sumOf (fun row => row.2.paymentValue)
        ((ordersWithPayments after).filter fun row => key row = group) =
      sumOf (fun row => row.2.paymentValue)
          ((ordersWithPayments before).filter fun row => key row = group) +
        paidBy (salesIn groupOf group sales) := by
  rw [sumOf_perm (filter_grown grown groups group), ← sumOf_sales, sumOf, List.map_append,
    List.sum_append]
  rfl

/-- A rounded sum of a group grows by the payments of its sales, up to a cent. -/
theorem roundTo_grown (grown : (ordersWithPayments after).Perm
    (ordersWithPayments before ++ sales.filterMap Sale.joined))
    (groups : GroupsSales key groupOf) (group : Group) :
    |roundTo 2 (sumOf (fun row => row.2.paymentValue)
        ((ordersWithPayments after).filter fun row => key row = group)) -
      (roundTo 2 (sumOf (fun row => row.2.paymentValue)
          ((ordersWithPayments before).filter fun row => key row = group)) +
        paidBy (salesIn groupOf group sales))| ≤ 1 / 100 := by
  have total := sumOf_grown grown groups group
  have later := abs_le.mp (abs_cents_sub_le (sumOf (fun row => row.2.paymentValue)
    ((ordersWithPayments after).filter fun row => key row = group)))
  have earlier := abs_le.mp (abs_cents_sub_le (sumOf (fun row => row.2.paymentValue)
    ((ordersWithPayments before).filter fun row => key row = group)))
  rw [abs_le]
  constructor <;> linarith

theorem roundTo_sumOf_nil :
    roundTo 2 (sumOf (fun row : OdsOrders × OdsPayments => row.2.paymentValue) []) = 0 := by
  have zero := roundTo_natCast 2 0
  rwa [Nat.cast_zero] at zero

theorem hasStatus_agree (status : String) (sale : Sale) (row : OdsOrders × OdsPayments)
    (shows : sale.Shows row) :
    decide (MaterializedViews.hasStatus status row.1 = .true) = sale.hasStatus status := by
  rw [Sale.hasStatus, shows.status, MaterializedViews.hasStatus]
  by_cases same : row.1.orderStatus = status
  · simp [same, Truth.ofBool]
  · simp [same, Truth.ofBool]

theorem dailyGrowth_of_grown (grown : (ordersWithPayments after).Perm
    (ordersWithPayments before ++ sales.filterMap Sale.joined)) (date : Date) :
    DailyGrowth before after sales date := by
  have counted (column : DailyMetrics → Nat) (test : OdsOrders → Truth) (saleTest : Sale → Bool)
      (agree : ∀ sale row, sale.Shows row → decide (test row.1 = .true) = saleTest sale)
      (shown : ∀ tables, dailyColumn tables date column = countWhen (fun row => test row.1)
        ((ordersWithPayments tables).filter fun row =>
          row.1.orderPurchaseTimestamp.date = date)) :
      dailyColumn after date column =
        dailyColumn before date column + ((salesOn date sales).filter saleTest).length := by
    rw [shown, shown]
    exact countWhen_grown grown groupsSales_date date test saleTest agree
  have never (sales : List Sale) : (sales.filter fun _ => false).length = 0 := by
    rw [List.filter_false, List.length_nil]
  constructor
  case daily =>
    have shown (tables : CleanTables) : dailyColumn tables date DailyMetrics.dailyOrders =
        ((ordersWithPayments tables).filter fun row =>
          row.1.orderPurchaseTimestamp.date = date).length :=
      dailyColumn_eq tables date _ _ rfl (fun _ _ => rfl) (fun _ _ => rfl) rfl
    rw [shown, shown]
    exact length_grown grown groupsSales_date date
  case delivered =>
    exact counted _ _ _ (hasStatus_agree "delivered") fun tables =>
      dailyColumn_eq tables date _ _ rfl (fun _ _ => rfl) (fun _ _ => rfl) rfl
  case cancelled =>
    exact counted _ _ _ (hasStatus_agree "cancelled") fun tables =>
      dailyColumn_eq tables date _ _ rfl (fun _ _ => rfl) (fun _ _ => rfl) rfl
  case shipped =>
    exact counted _ _ _ (hasStatus_agree "shipped") fun tables =>
      dailyColumn_eq tables date _ _ rfl (fun _ _ => rfl) (fun _ _ => rfl) rfl
  case processing =>
    exact counted _ _ _ (hasStatus_agree "processing") fun tables =>
      dailyColumn_eq tables date _ _ rfl (fun _ _ => rfl) (fun _ _ => rfl) rfl
  case late =>
    rw [counted DailyMetrics.lateDeliveryOrders isLate fun _ => false, never, Nat.add_zero]
    · intro sale row shows
      rw [isLate, shows.undelivered]
      rfl
    · intro tables
      exact dailyColumn_eq tables date _ _ rfl (fun _ _ => rfl) (fun _ _ => rfl) rfl
  case totalDelivered =>
    rw [counted DailyMetrics.totalDeliveredOrders hasBothDates fun _ => false, never, Nat.add_zero]
    · intro sale row shows
      rw [hasBothDates, shows.undelivered]
      cases row.1.orderEstimatedDeliveryDate <;> rfl
    · intro tables
      exact dailyColumn_eq tables date _ _ rfl (fun _ _ => rfl) (fun _ _ => rfl) rfl
  case revenue =>
    have shown (tables : CleanTables) : dailyColumn tables date DailyMetrics.dailyRevenue =
        roundTo 2 (sumOf (fun row => row.2.paymentValue) ((ordersWithPayments tables).filter
          fun row => row.1.orderPurchaseTimestamp.date = date)) := by
      apply dailyColumn_eq tables date DailyMetrics.dailyRevenue
        (fun rows => roundTo 2 (sumOf (fun row => row.2.paymentValue) rows)) rfl
      · intro group rows
        rfl
      · intro group rows
        rfl
      · exact roundTo_sumOf_nil
    rw [shown, shown]
    exact roundTo_grown grown groupsSales_date date

end Growth

end Sales

/-- In every interleaving, once the orders job and the payments job have caught up, the daily view
has grown by exactly the new sales with a customer. -/
theorem GeneratedRun.sales_reach_daily_view {Thread : Type} [DecidableEq Thread]
    (run : GeneratedRun Thread) (delivery : SalesDelivery run.history) :
    ∃ sales, Sold sales run.start run.pool.committed ∧
      (ordersWithPayments delivery.tables).Perm
        (ordersWithPayments run.startTables ++ sales.filterMap Sale.joined) ∧
      ∀ date, DailyGrowth run.startTables delivery.tables sales date := by
  obtain ⟨sales, sold⟩ := run.exists_sales
  have grown := joined_perm sold delivery
  exact ⟨sales, sold, grown, dailyGrowth_of_grown grown⟩

section Example

/-- The payments and the items arrive before their orders. -/
def shopSales : SalesDelivery shopSells.history where
  records := [
    (9, .payments ⟨.insert,
      ⟨⟨some "latency_test_0", some "credit_card", some (10998 / 100)⟩, some false⟩⟩),
    (9, .payments ⟨.insert,
      ⟨⟨some "order_0_0", some "credit_card", some (1501 / 100)⟩, some false⟩⟩),
    (4, .orderItems ⟨.insert,
      ⟨⟨some "latency_test_0", none, some (9999 / 100), some (999 / 100)⟩, some false⟩⟩),
    (4, .orderItems ⟨.insert, ⟨⟨some "order_0_0", some "p1", some 10, some 5⟩, some false⟩⟩),
    (6, .orders ⟨.insert, nobodysOrder.toSource⟩),
    (6, .orders ⟨.insert, shopOrder.toSource⟩),
    (2, .products ⟨.insert, ⟨⟨some "p1", some "toys"⟩, some false⟩⟩)]
  orders := rfl
  payments := rfl

theorem shop_reaches_daily_view : ∃ sales, Sold sales shopSells.start shopPool.committed ∧
    (ordersWithPayments shopSales.tables).Perm
      (ordersWithPayments shopSells.startTables ++ sales.filterMap Sale.joined) ∧
    ∀ date, DailyGrowth shopSells.startTables shopSales.tables sales date :=
  shopSells.sales_reach_daily_view shopSales

end Example

end OdsPipeline
