import OdsPipeline.Library.Mirror
import OdsPipeline.Proof.Routing

namespace OdsPipeline
open Library SqlQueries Postgres

section Mirror
variable {Row Source Data Columns CleanKey ErrorKey Key : Type}
  [DecidableEq Key] [DecidableEq CleanKey]

/-- The clean table mirrors the valid source rows after a history. -/
def Processor.CleanMirrors (processor : Processor Source Data Columns CleanKey ErrorKey)
    (toSource : Row → Source) (cleanSelect : Source → Data) (keyOf : Row → Key)
    (embed : Key → CleanKey) (clock : Nat → Timestamp) (history : List (Commit Row Key)) : Prop :=
  Mirrors (processor.clean.comap toSource).passes (fun row => cleanSelect (toSource row)) embed
    CleanSink.data ((KeyedTable.empty keyOf).commitAll history)
    ((processor.clean.comap toSource).afterHistory true keyOf clock history)

/-- No statement of the history turns a valid row into an invalid row. -/
def Processor.NeverInvalidates (processor : Processor Source Data Columns CleanKey ErrorKey)
    (toSource : Row → Source) (keyOf : Row → Key) (history : List (Commit Row Key)) : Prop :=
  ∀ count step, history[count]? = some step →
    ¬ Invalidates (processor.clean.comap toSource).passes
      ((KeyedTable.empty keyOf).commitAll (history.take count)) step

theorem Processor.cleanMirrors_iff (processor : Processor Source Data Columns CleanKey ErrorKey)
    (toSource : Row → Source) (cleanSelect : Source → Data) (keyOf : Row → Key)
    (embed : Key → CleanKey) (clock : Nat → Timestamp)
    (keeps : KeepsKey (processor.clean.comap toSource) keyOf embed CleanSink.data
      fun row => cleanSelect (toSource row)) (history : List (Commit Row Key)) :
    (∀ count, processor.CleanMirrors toSource cleanSelect keyOf embed clock
        (history.take count)) ↔
      processor.NeverInvalidates toSource keyOf history :=
  mirrors_run_iff keeps clock history

end Mirror

/-- A source key becomes a nullable STRING key. -/
def embedKey (id : Varchar 50) : Option String := some id.val

theorem embedKey_injective : Function.Injective embedKey := by
  intro first second equal
  exact Subtype.ext (Option.some.inj equal)

theorem orders_keepsKey :
    KeepsKey (OrderProcessor.processOrdersWithSQL.clean.comap OrdersRow.toSource)
      OrdersRow.orderId embedKey CleanSink.data
      fun row => OrderProcessor.cleanSelect row.toSource :=
  ⟨embedKey_injective, fun _ _ => rfl, fun _ _ => rfl⟩

theorem customers_keepsKey :
    KeepsKey (CustomerProcessor.processCustomersWithSQL.clean.comap CustomersRow.toSource)
      CustomersRow.customerId embedKey CleanSink.data
      fun row => CustomerProcessor.cleanSelect row.toSource :=
  ⟨embedKey_injective, fun _ _ => rfl, fun _ _ => rfl⟩

theorem products_keepsKey :
    KeepsKey (ProductProcessor.processProductsWithSQL.clean.comap ProductsRow.toSource)
      ProductsRow.productId embedKey CleanSink.data
      fun row => ProductProcessor.cleanSelect row.toSource :=
  ⟨embedKey_injective, fun _ _ => rfl, fun _ _ => rfl⟩

/-- A clean table follows its source through a whole run exactly when no update of the run
invalidates a row. -/
theorem clean_mirrors_source_iff (clock : Nat → Timestamp) :
    (∀ history, (∀ count, OrderProcessor.processOrdersWithSQL.CleanMirrors OrdersRow.toSource
        OrderProcessor.cleanSelect OrdersRow.orderId embedKey clock (history.take count)) ↔
      OrderProcessor.processOrdersWithSQL.NeverInvalidates OrdersRow.toSource
        OrdersRow.orderId history) ∧
    (∀ history, (∀ count, CustomerProcessor.processCustomersWithSQL.CleanMirrors
        CustomersRow.toSource CustomerProcessor.cleanSelect CustomersRow.customerId embedKey clock
        (history.take count)) ↔
      CustomerProcessor.processCustomersWithSQL.NeverInvalidates CustomersRow.toSource
        CustomersRow.customerId history) ∧
    (∀ history, (∀ count, ProductProcessor.processProductsWithSQL.CleanMirrors
        ProductsRow.toSource ProductProcessor.cleanSelect ProductsRow.productId embedKey clock
        (history.take count)) ↔
      ProductProcessor.processProductsWithSQL.NeverInvalidates ProductsRow.toSource
        ProductsRow.productId history) :=
  ⟨Processor.cleanMirrors_iff _ _ _ _ _ clock orders_keepsKey,
    Processor.cleanMirrors_iff _ _ _ _ _ clock customers_keepsKey,
    Processor.cleanMirrors_iff _ _ _ _ _ clock products_keepsKey⟩

def cityRemoved : List (Commit CustomersRow (Varchar 50)) :=
  [.insert ⟨customerOne, some personOne, some lima, some saoPaulo, some false⟩,
    .update ⟨customerOne, some personOne, none, some saoPaulo, some false⟩]

/-- The customer stays in the clean table after its city became NULL, and even after the
customer itself is deleted. -/
theorem invalidated_customer_stays :
    ¬ CustomerProcessor.processCustomersWithSQL.CleanMirrors CustomersRow.toSource
      CustomerProcessor.cleanSelect CustomersRow.customerId embedKey (fun _ => 0) cityRemoved ∧
    ¬ CustomerProcessor.processCustomersWithSQL.CleanMirrors CustomersRow.toSource
      CustomerProcessor.cleanSelect CustomersRow.customerId embedKey (fun _ => 0)
      (cityRemoved ++ [.delete ⟨"c1", by decide⟩]) := by
  refine ⟨fun mirror => ?_, fun mirror => ?_⟩
  · exact absurd (mirror.agrees ⟨"c1", by decide⟩) (by decide)
  · exact absurd (mirror.agrees ⟨"c1", by decide⟩) (by decide)

end OdsPipeline
