import OdsPipeline.Proof.Feeds
import OdsPipeline.Proof.SoftDelete

namespace OdsPipeline
open Library SqlQueries Postgres OdsETLJob StarRocks MaterializedViews

namespace Feed
variable {Row Key Source Data Columns CleanKey ErrorKey Stored : Type} [DecidableEq Key]
  [DecidableEq CleanKey] {feed : Feed Row Key Source Data Columns CleanKey ErrorKey}

/-- A clean table that holds its valid rows stores exactly these rows. -/
theorem Holds.stored_perm {database : Database} {jobs : Jobs} (holds : feed.Holds database jobs)
    (ofData : Data → Option Stored) :
    ((feed.clean jobs).rows.filterMap fun row => ofData row.data).Perm
      (feed.stored ofData database) := by
  have kept := List.Perm.filterMap ofData holds
  rwa [List.filterMap_map] at kept

/-- The stored rows of an unbroken run have distinct primary keys. -/
theorem nodup_stored (history : List Statement) (unbroken : feed.Unbroken history)
    (ofData : Data → Option Stored) {StoredKey : Type} (storedKey : Stored → StoredKey)
    (embed : StoredKey → CleanKey)
    (sameKey : ∀ (row : CleanSink Data) stored, ofData row.data = some stored →
      feed.processor.clean.primaryKey row = embed (storedKey stored)) :
    ((feed.stored ofData (Database.empty.commitAll history)).map storedKey).Nodup := by
  have holds := feed.holds_complete history unbroken _ (feed.arrived_tagged _)
  rw [← ((holds.stored_perm ofData).map storedKey).nodup_iff]
  exact ((feed.clean _).collect (fun row => ofData row.data) storedKey embed sameKey).distinct

/-- A history that leaves a table alone does not break it. -/
theorem unbroken_of_unused {history : List Statement} (unused : feed.own history = []) :
    feed.Unbroken history := by
  rw [Unbroken, unused]
  exact neverBreaks_nil _ _

/-- A single statement about a table does not break it. -/
theorem unbroken_of_single {history : List Statement} (step : Commit Row Key)
    (single : feed.own history = [step]) : feed.Unbroken history := by
  rw [Unbroken, single]
  exact neverBreaks_singleton _ _ step

end Feed

/-- A view can read each of its four tables at another earlier statement. -/
structure Positions where
  orders : Nat
  orderItems : Nat
  products : Nat
  payments : Nat

/-- The last statement of a run is the position of all four tables. -/
def Positions.all (count : Nat) : Positions := ⟨count, count, count, count⟩

/-- No position is behind the end of a run. -/
def Positions.Within (positions : Positions) (count : Nat) : Prop :=
  positions.orders ≤ count ∧ positions.orderItems ≤ count ∧ positions.products ≤ count ∧
    positions.payments ≤ count

namespace UnbrokenRun
variable (run : UnbrokenRun)

/-- The source database after some statements of the run. -/
def databaseAt (count : Nat) : Database := Database.empty.commitAll (run.history.take count)

/-- The clean tables that store each valid source row once, with no job in between. -/
def validTables (positions : Positions) : CleanTables where
  orders := ⟨ordersFeed.stored OdsOrders.ofData (run.databaseAt positions.orders),
    ordersFeed.nodup_stored _ (ordersFeed.unbroken_take _ run.orders _) _ _ some
      OdsOrders.key_ofData⟩
  orderItems := ⟨orderItemsFeed.stored OdsOrderItems.ofData (run.databaseAt positions.orderItems),
    orderItemsFeed.nodup_stored _ (orderItemsFeed.unbroken_take _ run.orderItems _) _ _
      (fun key => (some key.1, some key.2)) OdsOrderItems.key_ofData⟩
  products := ⟨productsFeed.stored OdsProducts.ofData (run.databaseAt positions.products),
    productsFeed.nodup_stored _ (productsFeed.unbroken_take _ run.products _) _ _ some
      OdsProducts.key_ofData⟩
  payments := ⟨paymentsFeed.stored OdsPayments.ofData (run.databaseAt positions.payments),
    paymentsFeed.nodup_stored _ (paymentsFeed.unbroken_take _ run.payments _) _ _
      (fun key => (some key.1, some key.2)) OdsPayments.key_ofData⟩

/-- The views see only the stored rows of four clean tables that hold their valid rows. -/
theorem sameViews_of_holds (positions : Positions) (jobs : Jobs)
    (orders : ordersFeed.Holds (run.databaseAt positions.orders) jobs)
    (orderItems : orderItemsFeed.Holds (run.databaseAt positions.orderItems) jobs)
    (products : productsFeed.Holds (run.databaseAt positions.products) jobs)
    (payments : paymentsFeed.Holds (run.databaseAt positions.payments) jobs) :
    SameViews jobs.cleanTables (run.validTables positions) := by
  have sameOrders : jobs.cleanTables.orders.rows.Perm (run.validTables positions).orders.rows :=
    orders.stored_perm OdsOrders.ofData
  have samePayments :
      jobs.cleanTables.payments.rows.Perm (run.validTables positions).payments.rows :=
    payments.stored_perm OdsPayments.ofData
  have sameItems :
      jobs.cleanTables.orderItems.rows.Perm (run.validTables positions).orderItems.rows :=
    orderItems.stored_perm OdsOrderItems.ofData
  have sameProducts :
      jobs.cleanTables.products.rows.Perm (run.validTables positions).products.rows :=
    products.stored_perm OdsProducts.ofData
  apply sameViews_of_joins
  · exact (join_perm _ sameOrders samePayments).filter _
  · exact (join_perm _ (join_perm _ sameProducts sameItems) sameOrders).filter _

/-- Whatever the jobs have read so far, the five views show the valid rows of the source tables,
each table as it was after some earlier statement. -/
theorem views_show_earlier_sources (delivery : Delivery run.history) :
    ∃ positions : Positions, positions.Within run.history.length ∧
      SameViews (main.run delivery.records).cleanTables (run.validTables positions) := by
  obtain ⟨orders, fewOrders, holdsOrders⟩ :=
    ordersFeed.holds_earlier _ run.orders _ delivery.orders
  obtain ⟨orderItems, fewItems, holdsItems⟩ :=
    orderItemsFeed.holds_earlier _ run.orderItems _ delivery.orderItems
  obtain ⟨products, fewProducts, holdsProducts⟩ :=
    productsFeed.holds_earlier _ run.products _ delivery.products
  obtain ⟨payments, fewPayments, holdsPayments⟩ :=
    paymentsFeed.holds_earlier _ run.payments _ delivery.payments
  refine ⟨⟨orders, orderItems, products, payments⟩,
    ⟨fewOrders, fewItems, fewProducts, fewPayments⟩, ?_⟩
  exact run.sameViews_of_holds _ _ holdsOrders holdsItems holdsProducts holdsPayments

/-- Once the four jobs have caught up, in whatever interleaving, the five views are the views of
the valid rows of the source database. -/
theorem views_show_current_sources (delivery : Delivery run.history)
    (complete : delivery.Complete) :
    SameViews (main.run delivery.records).cleanTables
      (run.validTables (.all run.history.length)) := by
  have settled : run.databaseAt run.history.length = Database.empty.commitAll run.history := by
    rw [databaseAt, List.take_length]
  apply run.sameViews_of_holds
  · rw [Positions.all, settled]
    exact ordersFeed.holds_complete _ run.orders _ complete.orders
  · rw [Positions.all, settled]
    exact orderItemsFeed.holds_complete _ run.orderItems _ complete.orderItems
  · rw [Positions.all, settled]
    exact productsFeed.holds_complete _ run.products _ complete.products
  · rw [Positions.all, settled]
    exact paymentsFeed.holds_complete _ run.payments _ complete.payments

end UnbrokenRun

section Sale

/-- One order of one product is paid by voucher. -/
def oneSale : UnbrokenRun where
  history := [
    .products (.insert ⟨productOne, some toys, some false⟩),
    .orders (.insert ⟨orderOne, some customerOne, some shipped, some 0, none, none, some false⟩),
    .orderItems (.insert ⟨1, some orderOne, some productOne, some 20, some 5, some false⟩),
    .payments (.insert ⟨1, some orderOne, some voucher, some 25, some false⟩)]
  orders := ordersFeed.unbroken_of_single _ rfl
  orderItems := orderItemsFeed.unbroken_of_single _ rfl
  products := productsFeed.unbroken_of_single _ rfl
  reviews := reviewsFeed.unbroken_of_unused rfl
  payments := paymentsFeed.unbroken_of_single _ rfl
  customers := customersFeed.unbroken_of_unused rfl

/-- The payment arrives before the order, and the order before its product. -/
def oneSaleDelivery : Delivery oneSale.history where
  records := [
    (9, .payments ⟨.insert, ⟨⟨some "o1", some "voucher", some 25⟩, some false⟩⟩),
    (4, .orders ⟨.insert, ⟨⟨some "o1", some "c1", some "shipped", some 0, none, none⟩, some false⟩⟩),
    (5, .orderItems ⟨.insert, ⟨⟨some "o1", some "p1", some 20, some 5⟩, some false⟩⟩),
    (7, .products ⟨.insert, ⟨⟨some "p1", some "toys"⟩, some false⟩⟩)]
  orders := ⟨[], rfl⟩
  orderItems := ⟨[], rfl⟩
  products := ⟨[], rfl⟩
  reviews := ⟨[], rfl⟩
  payments := ⟨[], rfl⟩
  customers := ⟨[], rfl⟩

theorem oneSale_views : SameViews (main.run oneSaleDelivery.records).cleanTables
    (oneSale.validTables (.all 4)) :=
  oneSale.views_show_current_sources oneSaleDelivery ⟨rfl, rfl, rfl, rfl⟩

end Sale

end OdsPipeline
