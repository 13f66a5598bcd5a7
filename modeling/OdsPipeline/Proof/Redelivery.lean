import OdsPipeline.Library.Redelivery
import OdsPipeline.Proof.Routing

namespace OdsPipeline
open Library SqlQueries

section Redelivery
variable {Source Data Columns CleanKey ErrorKey : Type} [DecidableEq CleanKey]

/-- The clean table keeps its data when the end of a changelog is delivered again. -/
def Processor.RedeliveryHarmless (processor : Processor Source Data Columns CleanKey ErrorKey) :
    Prop :=
  ∀ (table : KeyedTable processor.clean.primaryKey) (clock : Nat → Timestamp)
    (before suffix : List (Change Source)),
    ((processor.clean.deliver true table
        (stampFrom clock 0 (before ++ suffix ++ suffix))).rows.map CleanSink.data).Perm
      ((processor.clean.deliver true table
        (stampFrom clock 0 (before ++ suffix))).rows.map CleanSink.data)

/-- The processing times only reach the load timestamps. -/
theorem Processor.redeliveryHarmless_of_keepsData
    (processor : Processor Source Data Columns CleanKey ErrorKey) (dataKey : Data → CleanKey)
    (cleanSelect : Source → Data)
    (keeps : processor.clean.KeepsData CleanSink.data dataKey cleanSelect) :
    processor.RedeliveryHarmless := by
  intro table clock before suffix
  rw [stampFrom_append, InsertSelect.deliver_append]
  apply InsertSelect.redeliver_perm keeps
  rw [stampFrom_changes, stampFrom_changes]
  exact List.suffix_append before suffix

end Redelivery

/-- Recovery by redelivery is harmless for the six clean tables. -/
theorem redelivery_harmless :
    OrderProcessor.processOrdersWithSQL.RedeliveryHarmless ∧
      OrderItemProcessor.processOrderItemsWithSQL.RedeliveryHarmless ∧
      ProductProcessor.processProductsWithSQL.RedeliveryHarmless ∧
      ReviewProcessor.processReviewsWithSQL.RedeliveryHarmless ∧
      PaymentProcessor.processPaymentsWithSQL.RedeliveryHarmless ∧
      CustomerProcessor.processCustomersWithSQL.RedeliveryHarmless := by
  refine ⟨?_, ?_, ?_, ?_, ?_, ?_⟩
  · exact Processor.redeliveryHarmless_of_keepsData _ (fun row => row.orderId)
      OrderProcessor.cleanSelect ⟨fun _ => rfl, fun _ _ => rfl⟩
  · exact Processor.redeliveryHarmless_of_keepsData _ (fun row => (row.orderId, row.productId))
      OrderItemProcessor.cleanSelect ⟨fun _ => rfl, fun _ _ => rfl⟩
  · exact Processor.redeliveryHarmless_of_keepsData _ (fun row => row.productId)
      ProductProcessor.cleanSelect ⟨fun _ => rfl, fun _ _ => rfl⟩
  · exact Processor.redeliveryHarmless_of_keepsData _ (fun row => row.orderId)
      ReviewProcessor.cleanSelect ⟨fun _ => rfl, fun _ _ => rfl⟩
  · exact Processor.redeliveryHarmless_of_keepsData _ (fun row => (row.orderId, row.paymentType))
      PaymentProcessor.cleanSelect ⟨fun _ => rfl, fun _ _ => rfl⟩
  · exact Processor.redeliveryHarmless_of_keepsData _ (fun row => row.customerId)
      CustomerProcessor.cleanSelect ⟨fun _ => rfl, fun _ _ => rfl⟩

end OdsPipeline
