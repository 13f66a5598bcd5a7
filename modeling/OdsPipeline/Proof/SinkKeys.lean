import Mathlib.Algebra.BigOperators.Group.List.Basic
import OdsPipeline.Library.Load
import OdsPipeline.Proof.Routing

namespace OdsPipeline
open Library SqlQueries Postgres

section Inserts
variable {Row Source Data Columns CleanKey ErrorKey Key : Type}
  [DecidableEq Key] [DecidableEq CleanKey]

/-- The source table after an insert-only history rejects repeated primary keys. -/
def insertedTable (keyOf : Row → Key) (history : List Row) : KeyedTable keyOf :=
  (KeyedTable.empty keyOf).commitAll (history.map .insert)

/-- The source rows that satisfy the clean WHERE clause. -/
def Processor.validRows (processor : Processor Source Data Columns CleanKey ErrorKey)
    (toSource : Row → Source) (keyOf : Row → Key) (history : List Row) : List Row :=
  (insertedTable keyOf history).rows.filter (processor.clean.comap toSource).passes

/-- The data columns of the clean table after an insert-only history. -/
def Processor.cleanData (processor : Processor Source Data Columns CleanKey ErrorKey)
    (toSource : Row → Source) (keyOf : Row → Key) (clock : Nat → Timestamp) (history : List Row) :
    List Data :=
  ((processor.clean.comap toSource).afterHistory true keyOf clock
    (history.map .insert)).rows.map CleanSink.data

/-- The clean table holds one transformed row for each valid source row. -/
def Processor.OneRowEach (processor : Processor Source Data Columns CleanKey ErrorKey)
    (toSource : Row → Source) (cleanSelect : Source → Data) (keyOf : Row → Key)
    (clock : Nat → Timestamp) (history : List Row) : Prop :=
  (processor.cleanData toSource keyOf clock history).Perm
    ((processor.validRows toSource keyOf history).map fun row => cleanSelect (toSource row))

end Inserts

/-- SUM skips NULL values. -/
def sumFor {Row : Type} (orderOf : Row → Option String) (valueOf : Row → Option ℚ) (order : String)
    (rows : List Row) : ℚ :=
  ((rows.filter fun row => orderOf row = some order).filterMap valueOf).sum

theorem sumFor_perm {Row : Type} (orderOf : Row → Option String) (valueOf : Row → Option ℚ)
    (order : String) {first second : List Row} (perm : first.Perm second) :
    sumFor orderOf valueOf order first = sumFor orderOf valueOf order second :=
  ((perm.filter _).filterMap valueOf).sum_eq

theorem sumFor_map {Row Other : Type} (orderOf : Other → Option String)
    (valueOf : Other → Option ℚ) (order : String) (convert : Row → Other) (rows : List Row) :
    sumFor orderOf valueOf order (rows.map convert) =
      sumFor (fun row => orderOf (convert row)) (fun row => valueOf (convert row)) order rows := by
  rw [sumFor, List.filter_map, List.filterMap_map]
  rfl

section Tables
variable (clock : Nat → Timestamp)

/-- Each valid source item keeps its own clean row, and each order keeps its item value. -/
def OrderItemsKept (history : List OrderItemsRow) : Prop :=
  OrderItemProcessor.processOrderItemsWithSQL.OneRowEach OrderItemsRow.toSource
      OrderItemProcessor.cleanSelect OrderItemsRow.id clock history ∧
    ∀ order, sumFor (fun row => row.orderId) OrderItemsData.totalItemValue order
        (OrderItemProcessor.processOrderItemsWithSQL.cleanData OrderItemsRow.toSource
          OrderItemsRow.id clock history) =
      sumFor (fun row => toText row.orderId)
        (fun row => Option.map₂ (· + ·) row.price row.freightValue) order
        (OrderItemProcessor.processOrderItemsWithSQL.validRows OrderItemsRow.toSource
          OrderItemsRow.id history)

/-- Each valid source payment keeps its own clean row, and each order keeps its payment value. -/
def PaymentsKept (history : List PaymentsRow) : Prop :=
  PaymentProcessor.processPaymentsWithSQL.OneRowEach PaymentsRow.toSource
      PaymentProcessor.cleanSelect PaymentsRow.id clock history ∧
    ∀ order, sumFor (fun row => row.orderId) (fun row => row.paymentValue) order
        (PaymentProcessor.processPaymentsWithSQL.cleanData PaymentsRow.toSource
          PaymentsRow.id clock history) =
      sumFor (fun row => toText row.orderId) PaymentsRow.paymentValue order
        (PaymentProcessor.processPaymentsWithSQL.validRows PaymentsRow.toSource
          PaymentsRow.id history)

/-- Each valid source review keeps its own clean row. -/
def ReviewsKept (history : List ReviewsRow) : Prop :=
  ReviewProcessor.processReviewsWithSQL.OneRowEach ReviewsRow.toSource
    ReviewProcessor.cleanSelect ReviewsRow.reviewId clock history

theorem orderItems_oneRowEach_iff (history : List OrderItemsRow) :
    OrderItemProcessor.processOrderItemsWithSQL.OneRowEach OrderItemsRow.toSource
        OrderItemProcessor.cleanSelect OrderItemsRow.id clock history ↔
      ((OrderItemProcessor.processOrderItemsWithSQL.validRows OrderItemsRow.toSource
        OrderItemsRow.id history).map fun row => (toText row.orderId, toText row.productId)).Nodup :=
  (OrderItemProcessor.processOrderItemsWithSQL.clean.comap
    OrderItemsRow.toSource).afterHistory_perm_iff OrderItemsRow.id CleanSink.data
    (fun row => (row.orderId, row.productId))
    (fun row => OrderItemProcessor.cleanSelect row.toSource)
    (fun _ => rfl) (fun _ _ => rfl) clock history

theorem payments_oneRowEach_iff (history : List PaymentsRow) :
    PaymentProcessor.processPaymentsWithSQL.OneRowEach PaymentsRow.toSource
        PaymentProcessor.cleanSelect PaymentsRow.id clock history ↔
      ((PaymentProcessor.processPaymentsWithSQL.validRows PaymentsRow.toSource
        PaymentsRow.id history).map fun row => (toText row.orderId, toText row.paymentType)).Nodup :=
  (PaymentProcessor.processPaymentsWithSQL.clean.comap
    PaymentsRow.toSource).afterHistory_perm_iff PaymentsRow.id CleanSink.data
    (fun row => (row.orderId, row.paymentType))
    (fun row => PaymentProcessor.cleanSelect row.toSource)
    (fun _ => rfl) (fun _ _ => rfl) clock history

theorem reviews_oneRowEach_iff (history : List ReviewsRow) :
    ReviewProcessor.processReviewsWithSQL.OneRowEach ReviewsRow.toSource
        ReviewProcessor.cleanSelect ReviewsRow.reviewId clock history ↔
      ((ReviewProcessor.processReviewsWithSQL.validRows ReviewsRow.toSource
        ReviewsRow.reviewId history).map fun row => toText row.orderId).Nodup :=
  (ReviewProcessor.processReviewsWithSQL.clean.comap
    ReviewsRow.toSource).afterHistory_perm_iff ReviewsRow.reviewId CleanSink.data
    (fun row => row.orderId) (fun row => ReviewProcessor.cleanSelect row.toSource)
    (fun _ => rfl) (fun _ _ => rfl) clock history

/-- Valid rows survive in full exactly when no two of them share the clean primary key. -/
theorem clean_rows_kept_iff :
    (∀ history, OrderItemsKept clock history ↔
      ((OrderItemProcessor.processOrderItemsWithSQL.validRows OrderItemsRow.toSource
        OrderItemsRow.id history).map fun row =>
          (toText row.orderId, toText row.productId)).Nodup) ∧
    (∀ history, PaymentsKept clock history ↔
      ((PaymentProcessor.processPaymentsWithSQL.validRows PaymentsRow.toSource
        PaymentsRow.id history).map fun row =>
          (toText row.orderId, toText row.paymentType)).Nodup) ∧
    (∀ history, ReviewsKept clock history ↔
      ((ReviewProcessor.processReviewsWithSQL.validRows ReviewsRow.toSource
        ReviewsRow.reviewId history).map fun row => toText row.orderId).Nodup) := by
  refine ⟨fun history => ?_, fun history => ?_, fun history => ?_⟩
  · rw [← orderItems_oneRowEach_iff clock history, OrderItemsKept]
    refine and_iff_left_of_imp fun kept order => ?_
    rw [sumFor_perm _ _ order kept, sumFor_map]
    rfl
  · rw [← payments_oneRowEach_iff clock history, PaymentsKept]
    refine and_iff_left_of_imp fun kept order => ?_
    rw [sumFor_perm _ _ order kept, sumFor_map]
    rfl
  · exact reviews_oneRowEach_iff clock history

end Tables

section Overwritten

def twoUnits : List OrderItemsRow :=
  [⟨1, some orderOne, some productOne, some 10, some 2, some false⟩,
    ⟨2, some orderOne, some productOne, some 10, some 2, some false⟩]

def twoVouchers : List PaymentsRow :=
  [⟨1, some orderOne, some voucher, some 5, some false⟩,
    ⟨2, some orderOne, some voucher, some 7, some false⟩]

def twoReviews : List ReviewsRow :=
  [⟨reviewOne, some orderOne, some 1, some false⟩,
    ⟨reviewTwo, some orderOne, some 5, some false⟩]

/-- One order has two units of a product, two vouchers and two reviews. -/
def repeatedKeys : Database where
  orders := insertedTable _ [⟨orderOne, none, some shipped, some 0, none, none, some false⟩]
  customers := KeyedTable.empty _
  orderItems := insertedTable _ twoUnits
  payments := insertedTable _ twoVouchers
  reviews := insertedTable _ twoReviews
  products := insertedTable _ [⟨productOne, some toys, some false⟩]

/-- The second unit, voucher and review overwrite the first ones. -/
theorem repeated_keys_overwritten :
    repeatedKeys.ForeignKeys ∧ ¬ OrderItemsKept (fun _ => 0) twoUnits ∧
      ¬ PaymentsKept (fun _ => 0) twoVouchers ∧ ¬ ReviewsKept (fun _ => 0) twoReviews := by
  refine ⟨⟨by decide, by decide, by decide, by decide, by decide⟩, ?_, ?_, ?_⟩
  · rintro ⟨kept, sums⟩
    exact absurd (sums "o1") (by decide +kernel)
  · rintro ⟨kept, sums⟩
    exact absurd (sums "o1") (by decide +kernel)
  · intro kept
    exact absurd kept.length_eq (by decide)

end Overwritten

end OdsPipeline
