import OdsPipeline.Library.Growth
import OdsPipeline.Proof.Feeds
import OdsPipeline.Proof.Inserts

namespace OdsPipeline
open Library SqlQueries Postgres OdsETLJob

/-- Databases with the same rows are equal. -/
theorem Postgres.Database.eq_of_rows {first second : Database}
    (orders : first.orders.rows = second.orders.rows)
    (customers : first.customers.rows = second.customers.rows)
    (orderItems : first.orderItems.rows = second.orderItems.rows)
    (payments : first.payments.rows = second.payments.rows)
    (reviews : first.reviews.rows = second.reviews.rows)
    (products : first.products.rows = second.products.rows) : first = second := by
  cases first
  cases second
  congr 1
  · exact KeyedTable.eq_of_rows orders
  · exact KeyedTable.eq_of_rows customers
  · exact KeyedTable.eq_of_rows orderItems
  · exact KeyedTable.eq_of_rows payments
  · exact KeyedTable.eq_of_rows reviews
  · exact KeyedTable.eq_of_rows products

namespace Postgres.NewRow

/-- The row that a new row adds to one of the five tables. -/
def ordersRow : NewRow → Option OrdersRow
  | .orders row => some row
  | _ => none

def orderItemsRow : NewRow → Option OrderItemsRow
  | .orderItems row => some row
  | _ => none

def productsRow : NewRow → Option ProductsRow
  | .products row => some row
  | _ => none

def paymentsRow : NewRow → Option PaymentsRow
  | .payments row => some row
  | _ => none

def customersRow : NewRow → Option CustomersRow
  | .customers row => some row
  | _ => none

end Postgres.NewRow

namespace Feed
variable {Row Key Source Data Columns CleanKey ErrorKey : Type} [DecidableEq Key]
  [DecidableEq CleanKey] {feed : Feed Row Key Source Data Columns CleanKey ErrorKey}
  {pick : NewRow → Option Row}

/-- The source table of a feed gets the picked rows, and their keys are new. -/
structure Reads (feed : Feed Row Key Source Data Columns CleanKey ErrorKey)
    (pick : NewRow → Option Row) : Prop where
  statement : ∀ row : NewRow, feed.statement row.statement = (pick row).map .insert
  fresh : ∀ (database : Database) (row : NewRow) (own : Row), row.Fits database →
    pick row = some own → (feed.source database).lookup (feed.keyOf own) = none

/-- The rows of a transaction stand behind the stored rows of their table. -/
theorem Reads.rows_addAll (reads : feed.Reads pick) {database : Database} {rows : List NewRow}
    (fits : FitsAll database rows) :
    (feed.source (database.addAll rows)).rows =
      (feed.source database).rows ++ rows.filterMap pick := by
  induction rows generalizing database with
  | nil => exact (List.append_nil _).symm
  | cons row rest ih =>
      have later : (feed.source (database.addAll (row :: rest))).rows = _ := ih fits.2
      have statement := reads.statement row
      rw [later]
      cases found : pick row with
      | none =>
          rw [found] at statement
          rw [Database.add, feed.passed database _ statement, List.filterMap_cons_none found]
      | some own =>
          rw [found] at statement
          rw [Database.add, feed.reached database _ _ statement,
            KeyedTable.rows_commit_insert _ own (reads.fresh database row own fits.1 found),
            List.filterMap_cons_some found, List.append_assoc]
          rfl

theorem own_append (feed : Feed Row Key Source Data Columns CleanKey ErrorKey)
    (first second : List Statement) :
    feed.own (first ++ second) = feed.own first ++ feed.own second :=
  List.filterMap_append

theorem Reads.own (reads : feed.Reads pick) (rows : List NewRow) :
    feed.own (rows.map NewRow.statement) = (rows.filterMap pick).map .insert := by
  rw [Feed.own, List.filterMap_map, List.map_filterMap]
  exact List.filterMap_congr fun row _ => reads.statement row

/-- The valid rows after an unbroken history have distinct clean keys. -/
theorem distinct_of_unbroken (history : List Statement) (unbroken : feed.Unbroken history) :
    (((feed.source (Database.empty.commitAll history)).rows.filter feed.passes).map
      feed.cleanKey).Nodup := by
  have holds := feed.holds_complete history unbroken _ (feed.arrived_tagged _)
  have image : Image (feed.processor.clean.comap feed.toSource) CleanSink.data feed.cleanData
      (feed.source (Database.empty.commitAll history)) (feed.clean _) := holds
  have distinct := image.distinct feed.keeps
  exact distinct

/-- New rows break a clean table exactly when they repeat the clean key of a valid row. -/
theorem Reads.unbroken_iff (reads : feed.Reads pick) (history : List Statement)
    (rows : List NewRow) (unbroken : feed.Unbroken history)
    (fits : FitsAll (Database.empty.commitAll history) rows) :
    feed.Unbroken (history ++ rows.map NewRow.statement) ↔
      (((feed.source ((Database.empty.commitAll history).addAll rows)).rows.filter
        feed.passes).map feed.cleanKey).Nodup := by
  have grown := reads.rows_addAll fits
  rw [Unbroken, own_append, reads.own, grown]
  apply neverBreaks_inserts_iff (feed.own history) _ unbroken _ (feed.source_commitAll history)
  · exact feed.distinct_of_unbroken history unbroken
  · rw [← grown]
    exact (feed.source _).distinct

/-- Rows whose primary key decides their clean key never repeat a clean key. -/
theorem Reads.unbroken_of_key (reads : feed.Reads pick) (history : List Statement)
    (rows : List NewRow) (unbroken : feed.Unbroken history)
    (fits : FitsAll (Database.empty.commitAll history) rows) (embed : Key → CleanKey)
    (injective : Function.Injective embed)
    (sameKey : ∀ row, feed.cleanKey row = embed (feed.keyOf row)) :
    feed.Unbroken (history ++ rows.map NewRow.statement) := by
  rw [reads.unbroken_iff history rows unbroken fits, funext sameKey]
  apply (List.filter_sublist.map _).nodup
  have keys := (feed.source ((Database.empty.commitAll history).addAll rows)).distinct.map injective
  rwa [List.map_map] at keys

end Feed

section Feeds

theorem ordersFeed_reads : ordersFeed.Reads NewRow.ordersRow where
  statement row := by cases row <;> rfl
  fresh database row own fits found := by cases row <;> cases found; exact fits.1

theorem orderItemsFeed_reads : orderItemsFeed.Reads NewRow.orderItemsRow where
  statement row := by cases row <;> rfl
  fresh database row own fits found := by cases row <;> cases found; exact fits.1

theorem productsFeed_reads : productsFeed.Reads NewRow.productsRow where
  statement row := by cases row <;> rfl
  fresh database row own fits found := by cases row <;> cases found; exact fits

theorem reviewsFeed_reads : reviewsFeed.Reads fun _ => none where
  statement row := by cases row <;> rfl
  fresh database row own fits found := by cases found

theorem paymentsFeed_reads : paymentsFeed.Reads NewRow.paymentsRow where
  statement row := by cases row <;> rfl
  fresh database row own fits found := by cases row <;> cases found; exact fits.1

theorem customersFeed_reads : customersFeed.Reads NewRow.customersRow where
  statement row := by cases row <;> rfl
  fresh database row own fits found := by cases row <;> cases found; exact fits

end Feeds

end OdsPipeline
