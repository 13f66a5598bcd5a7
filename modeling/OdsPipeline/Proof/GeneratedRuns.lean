import OdsPipeline.Proof.EndToEnd
import OdsPipeline.Proof.Sales

namespace OdsPipeline
open Library SqlQueries Postgres OdsETLJob DataGenerator

/-- No order has two valid items of one product. -/
def OneItemPerProduct (database : Database) : Prop :=
  ∀ first ∈ database.orderItems.rows, ∀ second ∈ database.orderItems.rows,
    orderItemsFeed.passes first = true → orderItemsFeed.passes second = true →
      first.orderId = second.orderId → first.productId = second.productId → first = second

/-- The generator runs on a database that a history has left. -/
structure ContinuedRun (Thread : Type) [DecidableEq Thread] where
  earlier : List Statement
  foreignKeys : (Database.empty.commitAll earlier).ForeignKeys
  pool : Pool Thread
  reached : pool.Reachable (Database.empty.commitAll earlier)

namespace ContinuedRun
variable {Thread : Type} [DecidableEq Thread] (run : ContinuedRun Thread)

/-- The database on which the generator starts. -/
def start : Database := Database.empty.commitAll run.earlier

/-- The rows of the committed calls in the order of their commits. -/
def rows : List NewRow := (run.pool.log.map Prod.snd).flatten

/-- The changelog has the earlier statements and then the statements of the commits. -/
def history : List Statement := run.earlier ++ run.rows.map NewRow.statement

theorem fits : FitsAll run.start run.rows := (Pool.serial_of_reachable run.reached).log

theorem committed : run.pool.committed = run.start.addAll run.rows :=
  (Pool.serial_of_reachable run.reached).committed

theorem commitAll_history : Database.empty.commitAll run.history = run.pool.committed := by
  rw [committed, history, Database.commitAll, List.foldl_append, List.foldl_map]
  rfl

theorem exists_sales : ∃ sales, Sold sales run.start run.pool.committed :=
  PoolRun.exists_sales ⟨⟨run.start, run.foreignKeys⟩, run.pool, run.reached⟩

end ContinuedRun

/-- The generator runs on a database that an unbroken history has left. -/
structure GeneratedRun (Thread : Type) [DecidableEq Thread] where
  earlier : UnbrokenRun
  foreignKeys : (Database.empty.commitAll earlier.history).ForeignKeys
  pool : Pool Thread
  reached : pool.Reachable (Database.empty.commitAll earlier.history)

namespace GeneratedRun
variable {Thread : Type} [DecidableEq Thread] (run : GeneratedRun Thread)

def continued : ContinuedRun Thread :=
  ⟨run.earlier.history, run.foreignKeys, run.pool, run.reached⟩

/-- The database on which the generator starts. -/
def start : Database := Database.empty.commitAll run.earlier.history

/-- The rows of the committed calls in the order of their commits. -/
def rows : List NewRow := (run.pool.log.map Prod.snd).flatten

/-- The changelog has the earlier statements and then the statements of the commits. -/
def history : List Statement := run.earlier.history ++ run.rows.map NewRow.statement

theorem fits : FitsAll run.start run.rows := run.continued.fits

theorem committed : run.pool.committed = run.start.addAll run.rows := run.continued.committed

theorem commitAll_history : Database.empty.commitAll run.history = run.pool.committed :=
  run.continued.commitAll_history

theorem exists_sales : ∃ sales, Sold sales run.start run.pool.committed :=
  run.continued.exists_sales

variable {run} {sales : List Sale}

/-- The order of a sale is not an order of the start, and two sales are of two orders. -/
theorem distinct_sales (sold : Sold sales run.start run.pool.committed) :
    (run.start.orders.rows.map OrdersRow.orderId ++
      sales.map fun sale => sale.purchase.order.orderId).Nodup := by
  have distinct := run.pool.committed.orders.distinct
  rwa [sold.orders, List.map_append, List.map_map] at distinct

/-- No payment of the start pays a sale. -/
theorem unpaid_at_start (sold : Sold sales run.start run.pool.committed) :
    ∀ payment ∈ run.start.payments.rows, ∀ sale ∈ sales,
      toText payment.orderId ≠ some sale.orderId := by
  intro payment stored sale member same
  have apart := (List.nodup_append'.mp (distinct_sales sold)).2.2
  cases named : payment.orderId with
  | none =>
      rw [named] at same
      cases same
  | some key =>
      rw [named, toText, Option.map_some, Option.some.injEq, ← sale.purchase.id] at same
      have found := run.foreignKeys.paymentsOrder payment stored key named
      obtain ⟨order, known⟩ := Option.isSome_iff_exists.mp found
      obtain ⟨inside, isKey⟩ := KeyedTable.lookup_eq_some _ _ _ known
      apply apart (List.mem_map_of_mem inside)
      rw [isKey, Subtype.ext same]
      exact List.mem_map_of_mem member

/-- The sales never repeat the clean key of a payment. -/
theorem distinct_payments (sold : Sold sales run.start run.pool.committed) :
    ((run.pool.committed.payments.rows.filter paymentsFeed.passes).map
      paymentsFeed.cleanKey).Nodup := by
  have keys := (List.nodup_append'.mp (distinct_sales sold)).2.1
  have orderOf (sale : Sale) : (paymentsFeed.cleanKey sale.purchase.payment).1 =
      some sale.purchase.order.orderId.val := by
    rw [sale.purchase.id]
    exact sale.purchase.paymentOrder
  rw [sold.payments, List.filter_append, List.map_append, List.nodup_append']
  refine ⟨paymentsFeed.distinct_of_unbroken _ run.earlier.payments, ?_, ?_⟩
  · apply (List.filter_sublist.map _).nodup
    apply List.Nodup.of_map Prod.fst
    have renamed : (Prod.fst ∘ paymentsFeed.cleanKey) ∘ (fun sale : Sale => sale.purchase.payment) =
        fun sale => some sale.purchase.order.orderId.val := funext orderOf
    have named := keys.map ((Option.some_injective String).comp Subtype.val_injective)
    rw [List.map_map] at named
    rw [List.map_map, List.map_map, renamed]
    exact named
  · intro key before after
    obtain ⟨payment, inside, rfl⟩ := List.mem_map.mp before
    obtain ⟨new, member, same⟩ := List.mem_map.mp after
    obtain ⟨sale, listed, rfl⟩ := List.mem_map.mp (List.mem_of_mem_filter member)
    apply unpaid_at_start sold payment (List.mem_of_mem_filter inside) sale listed
    rw [← sale.purchase.id, ← orderOf sale, same]
    rfl

variable (run)

theorem orders_unbroken : ordersFeed.Unbroken run.history :=
  ordersFeed_reads.unbroken_of_key _ _ run.earlier.orders run.fits (fun key => some key.val)
    ((Option.some_injective String).comp Subtype.val_injective) fun _ => rfl

theorem products_unbroken : productsFeed.Unbroken run.history :=
  productsFeed_reads.unbroken_of_key _ _ run.earlier.products run.fits (fun key => some key.val)
    ((Option.some_injective String).comp Subtype.val_injective) fun _ => rfl

theorem customers_unbroken : customersFeed.Unbroken run.history :=
  customersFeed_reads.unbroken_of_key _ _ run.earlier.customers run.fits (fun key => some key.val)
    ((Option.some_injective String).comp Subtype.val_injective) fun _ => rfl

theorem reviews_unbroken : reviewsFeed.Unbroken run.history := by
  have nothing : reviewsFeed.own (run.rows.map NewRow.statement) = [] := by
    rw [reviewsFeed_reads.own, List.filterMap_none]
    rfl
  rw [Feed.Unbroken, history, Feed.own_append, nothing, List.append_nil]
  exact run.earlier.reviews

theorem payments_unbroken : paymentsFeed.Unbroken run.history := by
  obtain ⟨sales, sold⟩ := run.exists_sales
  apply (paymentsFeed_reads.unbroken_iff _ _ run.earlier.payments run.fits).mpr
  have distinct := distinct_payments sold
  rwa [committed] at distinct

theorem orderItems_unbroken_iff :
    orderItemsFeed.Unbroken run.history ↔ OneItemPerProduct run.pool.committed := by
  have text {bound : Nat} (first second : Option (Varchar bound)) :
      toText first = toText second ↔ first = second :=
    (Option.map_injective Subtype.val_injective).eq_iff
  rw [history, orderItemsFeed_reads.unbroken_iff _ _ run.earlier.orderItems run.fits]
  change (((run.start.addAll run.rows).orderItems.rows.filter _).map _).Nodup ↔ _
  rw [← committed, List.nodup_map_iff_inj_on (run.pool.committed.orderItems.nodup_rows.filter _)]
  constructor
  · intro injective first stored second member valid otherValid order product
    apply injective first (List.mem_filter.mpr ⟨stored, valid⟩) second
      (List.mem_filter.mpr ⟨member, otherValid⟩)
    exact Prod.ext ((text _ _).mpr order) ((text _ _).mpr product)
  · intro single first stored second member same
    obtain ⟨inFirst, valid⟩ := List.mem_filter.mp stored
    obtain ⟨inSecond, otherValid⟩ := List.mem_filter.mp member
    apply single first inFirst second inSecond valid otherValid
    · exact (text _ _).mp (congrArg Prod.fst same)
    · exact (text _ _).mp (congrArg Prod.snd same)

/-- In every interleaving five clean tables hold the valid rows of the source after each statement,
and the items do exactly when no order has two valid items of one product. -/
theorem generated_clean_tables_hold :
    ordersFeed.AlwaysHolds run.history ∧ productsFeed.AlwaysHolds run.history ∧
      reviewsFeed.AlwaysHolds run.history ∧ paymentsFeed.AlwaysHolds run.history ∧
      customersFeed.AlwaysHolds run.history ∧
      (orderItemsFeed.AlwaysHolds run.history ↔ OneItemPerProduct run.pool.committed) := by
  refine ⟨?_, ?_, ?_, ?_, ?_, ?_⟩
  · exact (ordersFeed.alwaysHolds_iff _).mpr run.orders_unbroken
  · exact (productsFeed.alwaysHolds_iff _).mpr run.products_unbroken
  · exact (reviewsFeed.alwaysHolds_iff _).mpr run.reviews_unbroken
  · exact (paymentsFeed.alwaysHolds_iff _).mpr run.payments_unbroken
  · exact (customersFeed.alwaysHolds_iff _).mpr run.customers_unbroken
  · exact (orderItemsFeed.alwaysHolds_iff _).trans run.orderItems_unbroken_iff

end GeneratedRun

section Example

/-- The two threads sell in the shop. -/
def shopSells : GeneratedRun Bool where
  earlier := {
    history := stock
    orders := ordersFeed.unbroken_of_unused rfl
    orderItems := orderItemsFeed.unbroken_of_unused rfl
    products := productsFeed.unbroken_of_single _ rfl
    reviews := reviewsFeed.unbroken_of_unused rfl
    payments := paymentsFeed.unbroken_of_unused rfl
    customers := customersFeed.unbroken_of_single _ rfl }
  foreignKeys := shop.foreignKeys
  pool := shopPool
  reached := shop_reached

theorem shop_single : OneItemPerProduct shopSells.pool.committed := by
  have single : ∀ first ∈ shopPool.committed.orderItems.rows,
      ∀ second ∈ shopPool.committed.orderItems.rows,
        first.orderId = second.orderId → first = second := by decide +kernel
  intro first stored second member _ _ order _
  exact single first stored second member order

theorem shop_items_hold : orderItemsFeed.AlwaysHolds shopSells.history :=
  shopSells.generated_clean_tables_hold.2.2.2.2.2.mpr shop_single

end Example

end OdsPipeline
