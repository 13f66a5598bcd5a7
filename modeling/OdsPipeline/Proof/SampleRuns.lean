import OdsPipeline.Proof.Accounts
import OdsPipeline.Proof.GeneratedRuns
import OdsPipeline.Proof.SampleData

namespace OdsPipeline
open Library SqlQueries Postgres OdsETLJob

/-- Two valid payments of one order have different types. -/
def OnePaymentPerType (database : Database) : Prop :=
  ∀ first ∈ database.payments.rows, ∀ second ∈ database.payments.rows,
    paymentsFeed.passes first = true → paymentsFeed.passes second = true →
      first.orderId = second.orderId → first.paymentType = second.paymentType → first = second

/-- No order has two valid reviews. -/
def OneReviewPerOrder (database : Database) : Prop :=
  ∀ first ∈ database.reviews.rows, ∀ second ∈ database.reviews.rows,
    reviewsFeed.passes first = true → reviewsFeed.passes second = true →
      first.orderId = second.orderId → first = second

namespace Feed
variable {Row Key Source Data Columns CleanKey ErrorKey : Type} [DecidableEq Key]
  [DecidableEq CleanKey] (feed : Feed Row Key Source Data Columns CleanKey ErrorKey)

/-- No two valid rows of the source table share a clean key. -/
def OneRowPerCleanKey (database : Database) : Prop :=
  ∀ first ∈ (feed.source database).rows, ∀ second ∈ (feed.source database).rows,
    feed.passes first = true → feed.passes second = true →
      feed.cleanKey first = feed.cleanKey second → first = second

theorem oneRowPerCleanKey_iff (database : Database) : feed.OneRowPerCleanKey database ↔
    (((feed.source database).rows.filter feed.passes).map feed.cleanKey).Nodup := by
  rw [List.nodup_map_iff_inj_on ((feed.source database).nodup_rows.filter _)]
  constructor
  · intro single first stored second member same
    obtain ⟨inFirst, valid⟩ := List.mem_filter.mp stored
    obtain ⟨inSecond, otherValid⟩ := List.mem_filter.mp member
    exact single first inFirst second inSecond valid otherValid same
  · intro injective first stored second member valid otherValid same
    exact injective first (List.mem_filter.mpr ⟨stored, valid⟩) second
      (List.mem_filter.mpr ⟨member, otherValid⟩) same

/-- A clean key that is the primary key of the source is never shared. -/
theorem oneRowPerCleanKey_of_key (database : Database)
    (same : ∀ first second, feed.cleanKey first = feed.cleanKey second →
      feed.keyOf first = feed.keyOf second) : feed.OneRowPerCleanKey database := by
  intro first stored second member _ _ equal
  exact List.inj_on_of_nodup_map (feed.source database).distinct stored member
    (same first second equal)

section Load
variable {history : List Statement} {rows : List Row}

/-- A history that loads distinct rows leaves them in their order. -/
theorem source_load (own : feed.own history = rows.map .insert)
    (distinct : (rows.map feed.keyOf).Nodup) :
    (feed.source (Database.empty.commitAll history)).rows = rows := by
  rw [feed.source_commitAll, own]
  exact (KeyedTable.empty feed.keyOf).rows_commitAll_inserts rows distinct

/-- A load reaches its clean table exactly when no clean key repeats. -/
theorem alwaysHolds_load (own : feed.own history = rows.map .insert)
    (distinct : (rows.map feed.keyOf).Nodup) : feed.AlwaysHolds history ↔
      feed.OneRowPerCleanKey (Database.empty.commitAll history) := by
  rw [feed.alwaysHolds_iff, feed.oneRowPerCleanKey_iff, feed.source_load own distinct, Unbroken,
    own]
  exact neverBreaks_inserts_iff [] rows (neverBreaks_nil _ _) (KeyedTable.empty feed.keyOf) rfl
    List.nodup_nil distinct

end Load

end Feed

/-- Sample files whose lines can be read and whose rows are consistent. -/
structure SampleRun where
  files : SampleData.Files
  distinctOn : DistinctOn SampleData.TempReview.reviewId
  rows : SampleData.FileRows
  read : rows.ReadFrom files distinctOn
  consistent : rows.Consistent

namespace SampleRun
variable (run : SampleRun)

/-- The load as the row changes that the replication slots see. -/
def history : List Statement :=
  run.rows.customers.map (.customers <| .insert ·) ++
    run.rows.products.map (.products <| .insert ·) ++
    run.rows.orders.map (.orders <| .insert ·) ++
    (run.rows.orderItems.map fun row => .orderItems (.insert row.item)) ++
    run.rows.payments.map (.payments <| .insert ·) ++
    run.rows.reviews.map (.reviews <| .insert ·)

section Own

theorem orders_own : ordersFeed.own run.history = run.rows.orders.map .insert := by
  simp [history, Feed.own, List.filterMap_map, ordersFeed]

theorem orderItems_own : orderItemsFeed.own run.history =
    (run.rows.orderItems.map SampleData.ItemWithSeller.item).map .insert := by
  simp [history, Feed.own, List.filterMap_map, Function.comp_def, orderItemsFeed]

theorem products_own : productsFeed.own run.history = run.rows.products.map .insert := by
  simp [history, Feed.own, List.filterMap_map, productsFeed]

theorem reviews_own : reviewsFeed.own run.history = run.rows.reviews.map .insert := by
  simp [history, Feed.own, List.filterMap_map, reviewsFeed]

theorem payments_own : paymentsFeed.own run.history = run.rows.payments.map .insert := by
  simp [history, Feed.own, List.filterMap_map, paymentsFeed]

theorem customers_own : customersFeed.own run.history = run.rows.customers.map .insert := by
  simp [history, Feed.own, List.filterMap_map, customersFeed]

end Own

theorem inserts : ∀ next ∈ run.history, next.Inserts := by
  simp only [history, List.forall_mem_append, List.forall_mem_map]
  exact ⟨⟨⟨⟨⟨fun row _ => ⟨row, rfl⟩, fun row _ => ⟨row, rfl⟩⟩, fun row _ => ⟨row, rfl⟩⟩,
    fun row _ => ⟨row.item, rfl⟩⟩, fun row _ => ⟨row, rfl⟩⟩, fun row _ => ⟨row, rfl⟩⟩

/-- The database that the script leaves. -/
def database : Database := (SampleData.FileRows.loading run.read run.consistent).database

/-- The changes that the slots see lead to the database of the script. -/
theorem commitAll_history : Database.empty.commitAll run.history = run.database := by
  have orders := ordersFeed.source_load run.orders_own run.consistent.orders
  have orderItems := orderItemsFeed.source_load run.orderItems_own run.read.orderItemIds
  have products := productsFeed.source_load run.products_own run.consistent.products
  have reviews := reviewsFeed.source_load run.reviews_own run.read.reviewIds
  have payments := paymentsFeed.source_load run.payments_own run.read.paymentIds
  have customers := customersFeed.source_load run.customers_own run.consistent.customers
  exact Database.eq_of_rows orders customers orderItems payments reviews products

/-- The load of readable and consistent files reaches the clean tables of the orders, products and
customers, and the other clean tables exactly when no order has two valid items of one product, two
valid payments of one type or two valid reviews. -/
theorem sample_load_reaches_clean_tables (onErrorStop : Bool) :
    (SampleData.loadSampleData onErrorStop run.files run.distinctOn).1.database = run.database ∧
      Database.empty.commitAll run.history = run.database ∧
      (∀ next ∈ run.history, next.Inserts) ∧
      ordersFeed.AlwaysHolds run.history ∧ productsFeed.AlwaysHolds run.history ∧
      customersFeed.AlwaysHolds run.history ∧
      (orderItemsFeed.AlwaysHolds run.history ↔ OneItemPerProduct run.database) ∧
      (paymentsFeed.AlwaysHolds run.history ↔ OnePaymentPerType run.database) ∧
      (reviewsFeed.AlwaysHolds run.history ↔ OneReviewPerOrder run.database) := by
  have text {bound : Nat} (first second : Option (Varchar bound)) :
      toText first = toText second ↔ first = second :=
    (Option.map_injective Subtype.val_injective).eq_iff
  have key {bound : Nat} {first second : Varchar bound}
      (same : (some first.val : Option String) = some second.val) : first = second :=
    Subtype.ext (Option.some.inj same)
  refine ⟨?_, run.commitAll_history, run.inserts, ?_, ?_, ?_, ?_, ?_, ?_⟩
  · rw [SampleData.loadSampleData_eq run.files run.distinctOn onErrorStop run.read run.consistent]
    rfl
  · exact (ordersFeed.alwaysHolds_load run.orders_own run.consistent.orders).mpr
      (ordersFeed.oneRowPerCleanKey_of_key _ fun _ _ => key)
  · exact (productsFeed.alwaysHolds_load run.products_own run.consistent.products).mpr
      (productsFeed.oneRowPerCleanKey_of_key _ fun _ _ => key)
  · exact (customersFeed.alwaysHolds_load run.customers_own run.consistent.customers).mpr
      (customersFeed.oneRowPerCleanKey_of_key _ fun _ _ => key)
  · rw [orderItemsFeed.alwaysHolds_load run.orderItems_own run.read.orderItemIds,
      run.commitAll_history]
    refine forall₂_congr fun first _ => forall₂_congr fun second _ => forall₂_congr fun _ _ => ?_
    change ((toText first.orderId, toText first.productId) =
      (toText second.orderId, toText second.productId) → _) ↔ _
    rw [Prod.mk.injEq, text, text, and_imp]
  · rw [paymentsFeed.alwaysHolds_load run.payments_own run.read.paymentIds, run.commitAll_history]
    refine forall₂_congr fun first _ => forall₂_congr fun second _ => forall₂_congr fun _ _ => ?_
    change ((toText first.orderId, toText first.paymentType) =
      (toText second.orderId, toText second.paymentType) → _) ↔ _
    rw [Prod.mk.injEq, text, text, and_imp]
  · rw [reviewsFeed.alwaysHolds_load run.reviews_own run.read.reviewIds, run.commitAll_history]
    refine forall₂_congr fun first _ => forall₂_congr fun second _ => forall₂_congr fun _ _ => ?_
    change (toText first.orderId = toText second.orderId → _) ↔ _
    rw [text]

end SampleRun

section Example
open SampleData

def sellerOne : Varchar 50 := ⟨"s1", by decide⟩

/-- Both lines give this item, each with its own number. -/
def smallItem (id : Nat) : ItemWithSeller :=
  ⟨⟨id, some orderOne, some productOne, some 5, some 1, some false⟩, some sellerOne⟩

def smallRows : FileRows where
  customers := [⟨customerOne, some personOne, some lima, some saoPaulo, some false⟩]
  sellers := [⟨sellerOne⟩]
  products := [⟨productOne, none, some false⟩]
  orders := [⟨orderOne, some customerOne, some shipped, some 0, none, none, some false⟩]
  orderItems := [smallItem 1, smallItem 2]
  payments := [⟨1, some orderOne, some voucher, some 12, some false⟩]
  tempReviews := [⟨some reviewOne, some orderOne, some 4⟩, ⟨some reviewOne, some orderOne, some 5⟩]
  reviews := [⟨reviewOne, some orderOne, some 5, some false⟩]

def smallLoad : SampleRun where
  files := smallFiles
  distinctOn := .last TempReview.reviewId
  rows := smallRows
  read := ⟨rfl, rfl, rfl, rfl, rfl, rfl, rfl, rfl⟩
  consistent := by constructor <;> decide

/-- The one payment reaches its clean table, but one of the two items is lost. -/
theorem small_load_loses_item :
    paymentsFeed.AlwaysHolds smallLoad.history ∧ ¬ orderItemsFeed.AlwaysHolds smallLoad.history := by
  have types : OnePaymentPerType smallLoad.database := by
    unfold OnePaymentPerType
    decide
  have twice : ¬ OneItemPerProduct smallLoad.database := by
    unfold OneItemPerProduct
    decide
  obtain ⟨-, -, -, -, -, -, items, payments, -⟩ := smallLoad.sample_load_reaches_clean_tables true
  exact ⟨payments.mpr types, mt items.mp twice⟩

end Example

end OdsPipeline
