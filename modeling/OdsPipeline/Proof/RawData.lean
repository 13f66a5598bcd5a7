import OdsPipeline.Library.Json
import OdsPipeline.Proof.Routing

namespace OdsPipeline
open Library SqlQueries Json

section Encoding

/-- The raw data name the column and decode to its value. -/
def Faithful (column : String) (id : Option String) (raw : String) : Prop :=
  decodeField raw = some (column, id)

/-- An id that needs no escape in JSON. -/
def PlainId (id : Option String) : Prop :=
  ∃ text, id = some text ∧ ∀ letter ∈ text.toList, isPlain letter = true

theorem rawData_eq_concatObject (column : String) (id : Option String) :
    rawData column id = concatObject column (id.getD "null") := rfl

/-- The concatenation keeps plain ids, and it turns NULL into a text. -/
theorem faithful_rawData_iff (column : String) (id : Option String)
    (plain : ∀ letter ∈ column.toList, isPlain letter = true) :
    Faithful column id (rawData column id) ↔ PlainId id := by
  rw [Faithful, rawData_eq_concatObject]
  cases id with
  | none =>
      refine iff_of_false (decodeField_concatObject_ne_null column column _ plain) ?_
      rintro ⟨text, impossible, -⟩
      cases impossible
  | some id =>
      rw [Option.getD_some, decodeField_concatObject_iff column id plain]
      constructor
      · intro plains
        exact ⟨id, rfl, plains⟩
      · rintro ⟨text, same, plains⟩
        cases same
        exact plains

/-- The columns that the raw data name need no escape. -/
theorem idColumns_plain : ∀ column ∈ ["order_id", "product_id", "customer_id"],
    ∀ letter ∈ column.toList, isPlain letter = true := by
  simp [isPlain]

/-- Each error statement encodes its id faithfully exactly when the id is a text without quotes,
backslashes and control characters. -/
theorem raw_data_faithful_iff (now : Timestamp) :
    (∀ row, Faithful "order_id" row.orderId
        (OrderProcessor.processOrdersWithSQL.error.select now row).rawData ↔
      PlainId row.orderId) ∧
    (∀ row, Faithful "order_id" row.orderId
        (OrderItemProcessor.processOrderItemsWithSQL.error.select now row).rawData ↔
      PlainId row.orderId) ∧
    (∀ row, Faithful "product_id" row.productId
        (ProductProcessor.processProductsWithSQL.error.select now row).rawData ↔
      PlainId row.productId) ∧
    (∀ row, Faithful "order_id" row.orderId
        (ReviewProcessor.processReviewsWithSQL.error.select now row).rawData ↔
      PlainId row.orderId) ∧
    (∀ row, Faithful "order_id" row.orderId
        (PaymentProcessor.processPaymentsWithSQL.error.select now row).rawData ↔
      PlainId row.orderId) ∧
    (∀ row, Faithful "customer_id" row.customerId
        (CustomerProcessor.processCustomersWithSQL.error.select now row).rawData ↔
      PlainId row.customerId) := by
  refine ⟨?_, ?_, ?_, ?_, ?_, ?_⟩
  · intro row
    exact faithful_rawData_iff _ _ (idColumns_plain _ (by simp))
  · intro row
    exact faithful_rawData_iff _ _ (idColumns_plain _ (by simp))
  · intro row
    exact faithful_rawData_iff _ _ (idColumns_plain _ (by simp))
  · intro row
    exact faithful_rawData_iff _ _ (idColumns_plain _ (by simp))
  · intro row
    exact faithful_rawData_iff _ _ (idColumns_plain _ (by simp))
  · intro row
    exact faithful_rawData_iff _ _ (idColumns_plain _ (by simp))

/-- An item without a product and without an order. -/
def orderlessItem (orderId : Option String) : OrderItemsSource :=
  ⟨⟨orderId, none, some 10, some 2⟩, some false⟩

/-- A NULL order reads like the order 'null', a quote breaks the object, and a backslash changes
the id. -/
theorem raw_data_confuses_ids :
    OrderItemProcessor.processOrderItemsWithSQL.error.Selects (orderlessItem none) ∧
      OrderItemProcessor.processOrderItemsWithSQL.error.Selects (orderlessItem (some "null")) ∧
      (OrderItemProcessor.processOrderItemsWithSQL.error.select 0 (orderlessItem none)).rawData =
        (OrderItemProcessor.processOrderItemsWithSQL.error.select 0
          (orderlessItem (some "null"))).rawData ∧
      decodeField (OrderItemProcessor.processOrderItemsWithSQL.error.select 0
        (orderlessItem (some "o\"1"))).rawData = none ∧
      decodeField (OrderItemProcessor.processOrderItemsWithSQL.error.select 0
        (orderlessItem (some "o\\n1"))).rawData = some ("order_id", some "o\n1") := by
  decide +kernel

end Encoding

end OdsPipeline
