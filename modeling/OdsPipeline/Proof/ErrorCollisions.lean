import OdsPipeline.Proof.SinkKeys

namespace OdsPipeline
open Library SqlQueries Postgres

section Errors
variable {Row Source Data Columns CleanKey ErrorKey Key : Type}
  [DecidableEq Key] [DecidableEq ErrorKey]

/-- The error table after an insert-only history. -/
def Processor.errorTable (processor : Processor Source Data Columns CleanKey ErrorKey)
    (toSource : Row → Source) (keyOf : Row → Key) (clock : Nat → Timestamp) (history : List Row) :
    KeyedTable (processor.error.comap toSource).primaryKey :=
  (processor.error.comap toSource).afterHistory true keyOf clock (history.map .insert)

/-- The rejected source rows with their processing times, where every id of the key is known. -/
def Processor.rejectedRows (processor : Processor Source Data Columns CleanKey ErrorKey)
    (toSource : Row → Source) (keyOf : Row → Key) (known : Row → Bool) (clock : Nat → Timestamp)
    (history : List Row) : List (Timestamp × Row) :=
  (InsertSelect.timedRows clock (insertedTable keyOf history).rows).filter fun record =>
    (processor.error.comap toSource).passes record.2 && known record.2

/-- The error table holds one row for each of these rejected rows. -/
def Processor.OneErrorEach (processor : Processor Source Data Columns CleanKey ErrorKey)
    (toSource : Row → Source) (keyOf : Row → Key) (known : Row → Bool)
    (knownKey : ErrorKey → Bool) (clock : Nat → Timestamp) (history : List Row) : Prop :=
  ((processor.errorTable toSource keyOf clock history).rows.filter fun row =>
      knownKey (processor.error.primaryKey row)).Perm
    ((processor.rejectedRows toSource keyOf known clock history).map fun record =>
      processor.error.select record.1 (toSource record.2))

theorem Processor.oneErrorEach_iff (processor : Processor Source Data Columns CleanKey ErrorKey)
    (toSource : Row → Source) (keyOf : Row → Key) (known : Row → Bool)
    (knownKey : ErrorKey → Bool)
    (sameKnown : ∀ now row,
      knownKey (processor.error.primaryKey (processor.error.select now (toSource row))) = known row)
    (clock : Nat → Timestamp) (history : List Row) :
    processor.OneErrorEach toSource keyOf known knownKey clock history ↔
      ((processor.rejectedRows toSource keyOf known clock history).map fun record =>
        processor.error.primaryKey
          (processor.error.select record.1 (toSource record.2))).Nodup := by
  let statement := processor.error.comap toSource
  let records := InsertSelect.timedRows clock (insertedTable keyOf history).rows
  have stored : (processor.errorTable toSource keyOf clock history).rows =
      ((KeyedTable.empty statement.primaryKey).upsertAll (statement.written records)).rows := by
    rw [errorTable, InsertSelect.afterHistory_timedRows, InsertSelect.load_eq_upsertAll]
    rfl
  have written : (statement.written records).filter
        (fun row => knownKey (statement.primaryKey row)) =
      (processor.rejectedRows toSource keyOf known clock history).map fun record =>
        processor.error.select record.1 (toSource record.2) := by
    rw [InsertSelect.written, List.filter_map, List.filter_filter, rejectedRows]
    congr 1
    apply List.filter_congr
    intro record _
    rw [Bool.and_comm]
    exact congrArg (_ && ·) (sameKnown record.1 record.2)
  have keys (rows : List (ErrorSink Columns)) :
      ((KeyedTable.empty statement.primaryKey).upsertAll rows).rows.Perm rows ↔
        (rows.map statement.primaryKey).Nodup := by
    have kept := KeyedTable.perm_upsertAll_iff id statement.primaryKey
      (fun row => (rfl : _ = statement.primaryKey row)) rows
    rwa [List.map_id, List.map_id] at kept
  have tested : (processor.errorTable toSource keyOf clock history).rows.filter
      (fun row => knownKey (processor.error.primaryKey row)) =
      ((KeyedTable.empty statement.primaryKey).upsertAll ((statement.written records).filter
        fun row => knownKey (statement.primaryKey row))).rows := by
    rw [stored]
    exact KeyedTable.rows_upsertAll_filter (statement.written records) knownKey
  rw [OneErrorEach, tested, ← written, keys, written, List.map_map]
  rfl

end Errors

section Tables
variable (clock : Nat → Timestamp)

/-- Each rejected item with known ids keeps its own error row. -/
def OrderItemErrorsKept (history : List OrderItemsRow) : Prop :=
  OrderItemProcessor.processOrderItemsWithSQL.OneErrorEach OrderItemsRow.toSource
    OrderItemsRow.id (fun row => row.orderId.isSome && row.productId.isSome)
    (fun key => key.1.1.isSome && key.1.2.isSome) clock history

/-- Each rejected payment with known ids keeps its own error row. -/
def PaymentErrorsKept (history : List PaymentsRow) : Prop :=
  PaymentProcessor.processPaymentsWithSQL.OneErrorEach PaymentsRow.toSource PaymentsRow.id
    (fun row => row.orderId.isSome && row.paymentType.isSome)
    (fun key => key.1.1.isSome && key.1.2.isSome) clock history

/-- Each rejected review with a known id keeps its own error row. -/
def ReviewErrorsKept (history : List ReviewsRow) : Prop :=
  ReviewProcessor.processReviewsWithSQL.OneErrorEach ReviewsRow.toSource ReviewsRow.reviewId
    (fun row => row.orderId.isSome) (fun key => key.1.isSome) clock history

/-- Rejected rows keep their own error rows exactly when no two of them have the same ids in the
same millisecond. -/
theorem error_rows_kept_iff :
    (∀ history, OrderItemErrorsKept clock history ↔
      ((OrderItemProcessor.processOrderItemsWithSQL.rejectedRows OrderItemsRow.toSource
        OrderItemsRow.id (fun row => row.orderId.isSome && row.productId.isSome) clock
        history).map fun record =>
          ((toText record.2.orderId, toText record.2.productId), record.1)).Nodup) ∧
    (∀ history, PaymentErrorsKept clock history ↔
      ((PaymentProcessor.processPaymentsWithSQL.rejectedRows PaymentsRow.toSource
        PaymentsRow.id (fun row => row.orderId.isSome && row.paymentType.isSome) clock
        history).map fun record =>
          ((toText record.2.orderId, toText record.2.paymentType), record.1)).Nodup) ∧
    (∀ history, ReviewErrorsKept clock history ↔
      ((ReviewProcessor.processReviewsWithSQL.rejectedRows ReviewsRow.toSource
        ReviewsRow.reviewId (fun row => row.orderId.isSome) clock
        history).map fun record => (toText record.2.orderId, record.1)).Nodup) := by
  have known {bound : Nat} (value : Option (Varchar bound)) :
      (toText value).isSome = value.isSome := by
    cases value <;> rfl
  refine ⟨fun history => ?_, fun history => ?_, fun history => ?_⟩
  · apply Processor.oneErrorEach_iff
    intro now row
    exact congrArg₂ _ (known row.orderId) (known row.productId)
  · apply Processor.oneErrorEach_iff
    intro now row
    exact congrArg₂ _ (known row.orderId) (known row.paymentType)
  · apply Processor.oneErrorEach_iff
    intro now row
    exact known row.orderId

end Tables

section Burst

/-- All rows of a burst are processed in one millisecond. -/
def oneMillisecond (_ : Nat) : Timestamp := 0

def twoPriceless : List OrderItemsRow :=
  [⟨1, some orderOne, some productOne, none, some 2, some false⟩,
    ⟨2, some orderOne, some productOne, none, some 3, some false⟩]

def twoEmptyVouchers : List PaymentsRow :=
  [⟨1, some orderOne, some voucher, some 0, some false⟩,
    ⟨2, some orderOne, some voucher, some (-7), some false⟩]

def twoScoreless : List ReviewsRow :=
  [⟨reviewOne, some orderOne, some 0, some false⟩,
    ⟨reviewTwo, some orderOne, some 9, some false⟩]

/-- One order has two rejected items, payments and reviews. -/
def rejectedTwice : Database where
  orders := insertedTable _ [⟨orderOne, none, some shipped, some 0, none, none, some false⟩]
  customers := KeyedTable.empty _
  orderItems := insertedTable _ twoPriceless
  payments := insertedTable _ twoEmptyVouchers
  reviews := insertedTable _ twoScoreless
  products := insertedTable _ [⟨productOne, some toys, some false⟩]

/-- The second rejected row of a burst hides the first one. -/
theorem burst_hides_errors :
    rejectedTwice.ForeignKeys ∧ ¬ OrderItemErrorsKept oneMillisecond twoPriceless ∧
      ¬ PaymentErrorsKept oneMillisecond twoEmptyVouchers ∧
      ¬ ReviewErrorsKept oneMillisecond twoScoreless := by
  refine ⟨⟨by decide, by decide, by decide, by decide, by decide⟩, ?_, ?_, ?_⟩
  · intro kept
    exact absurd kept.length_eq (by decide +kernel)
  · intro kept
    exact absurd kept.length_eq (by decide +kernel)
  · intro kept
    exact absurd kept.length_eq (by decide +kernel)

end Burst

end OdsPipeline
