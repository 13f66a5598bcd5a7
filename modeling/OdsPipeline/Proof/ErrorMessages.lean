import OdsPipeline.Proof.Routing

namespace OdsPipeline
open Library SqlQueries

/-- The column that an error message is about. -/
def namedColumn : String → Option Column
  | "Invalid order ID" => some .orderId
  | "Invalid customer ID" => some .customerId
  | "Invalid order status" => some .orderStatus
  | "Missing timestamp" => some .orderPurchaseTimestamp
  | "Invalid product ID" => some .productId
  | "Invalid price" => some .price
  | "Invalid freight value" => some .freightValue
  | "Invalid payment type" => some .paymentType
  | "Invalid payment value" => some .paymentValue
  | "Payment value too high" => some .paymentValue
  | "Invalid customer unique ID" => some .customerUniqueId
  | "Invalid customer city" => some .customerCity
  | "Invalid customer state" => some .customerState
  | "Invalid review score (must be 1-5)" => some .reviewScore
  | "Invalid category name" => some .productCategoryName
  | _ => none

/-- A message names a failure when some condition on the column that it names is false. -/
def NamesFailure (conjuncts : List (Column × Truth)) (message : String) : Prop :=
  ∃ conjunct ∈ conjuncts, namedColumn message = some conjunct.1 ∧ conjunct.2 = .false

/-- A sound message is not the fallback and names a failure. -/
def SoundMessage (conjuncts : List (Column × Truth)) (message : String) : Prop :=
  message ≠ "Unknown validation error" ∧ NamesFailure conjuncts message

theorem NamesFailure.sound {conjuncts : List (Column × Truth)} {message : String}
    (names : NamesFailure conjuncts message) : SoundMessage conjuncts message := by
  refine ⟨?_, names⟩
  rintro rfl
  obtain ⟨conjunct, -, named, -⟩ := names
  have unnamed : namedColumn "Unknown validation error" = none := rfl
  rw [unnamed] at named
  cases named

section Branches

theorem not_iff (condition : Truth) : condition.not = .true ↔ Truth.all [condition] = .false := by
  rw [Truth.not_eq_true_iff, Truth.all, Truth.all, Truth.and_eq_false_iff]
  exact (or_iff_left (by decide)).symm

theorem missingOrLong_iff (text : Option String) (bound : Nat) :
    (isNull text).or (check (charLength text) (bound < ·)) = .true ↔
      Truth.all [isNotNull text, check (charLength text) (· ≤ bound)] = .false := by
  simp only [Truth.all, Truth.or_eq_true_iff, Truth.and_eq_false_iff]
  cases text <;> simp [charLength]

theorem missingOrOutside_iff {Value : Type} [LinearOrder Value] (value : Option Value)
    (low high : Value) :
    Truth.any [isNull value, check value (· < low), check value (high < ·)] = .true ↔
      Truth.all [isNotNull value, check value (low ≤ ·), check value (· ≤ high)] = .false := by
  simp only [Truth.any, Truth.all, Truth.or_eq_true_iff, Truth.and_eq_false_iff]
  cases value <;> simp

theorem missingOrAtMost_iff {Value : Type} [LinearOrder Value] (value : Option Value)
    (low : Value) :
    (isNull value).or (check value (· ≤ low)) = .true ↔
      Truth.all [isNotNull value, check value (low < ·)] = .false := by
  simp only [Truth.all, Truth.or_eq_true_iff, Truth.and_eq_false_iff]
  cases value <;> simp

theorem above_iff {Value : Type} [LinearOrder Value] (value : Option Value) (high : Value) :
    check value (high < ·) = .true ↔ Truth.all [check value (· ≤ high)] = .false := by
  simp only [Truth.all, Truth.and_eq_false_iff]
  cases value <;> simp

theorem missing_iff {Value : Type} (value : Option Value) :
    isNull value = .true ↔ Truth.all [isNotNull value] = .false := by
  simp [Truth.all, Truth.and_eq_false_iff]

/-- A branch answers for a group of conditions when it is true exactly where the group fails and its
message names their column. -/
structure Answers (group : List (Column × Truth)) (branch : Truth × String) : Prop where
  fires : branch.1 = .true ↔ ∃ conjunct ∈ group, conjunct.2 = .false
  names : ∀ conjunct ∈ group, namedColumn branch.2 = some conjunct.1

/-- The conditions of one column are answered by a branch about this column. -/
theorem Answers.ofColumn {column : Column} {message : String} {conditions : List Truth}
    {branch : Truth} (named : namedColumn message = some column)
    (fires : branch = .true ↔ Truth.all conditions = .false) :
    Answers (conditions.map (Prod.mk column)) (branch, message) where
  fires := by
    rw [fires, Truth.all_eq_false_iff]
    constructor
    · rintro ⟨condition, member, fails⟩
      exact ⟨(column, condition), List.mem_map_of_mem member, fails⟩
    · rintro ⟨conjunct, member, fails⟩
      obtain ⟨condition, inside, rfl⟩ := List.mem_map.mp member
      exact ⟨condition, inside, fails⟩
  names := by
    intro conjunct member
    obtain ⟨condition, -, rfl⟩ := List.mem_map.mp member
    exact named

/-- The message of a rejected row names a failure when the branches answer, in their order, for the
groups of conditions. -/
theorem caseWhen_namesFailure {groups : List (List (Column × Truth))}
    {branches : List (Truth × String)} (answers : List.Forall₂ Answers groups branches)
    (otherwise : String) (rejected : (whereAll groups.flatten).not = .true) :
    NamesFailure groups.flatten (caseWhen branches otherwise) := by
  rw [Truth.not_eq_true_iff, whereAll_eq_false_iff] at rejected
  induction answers with
  | nil => simp at rejected
  | @cons group branch groups branches answer later ih =>
      rw [List.flatten_cons]
      by_cases fires : branch.1 = .true
      · obtain ⟨conjunct, member, fails⟩ := answer.fires.mp fires
        rw [caseWhen, if_pos fires]
        exact ⟨conjunct, List.mem_append_left _ member, answer.names conjunct member, fails⟩
      · -- No condition of this group is false, so the false one is of a later group.
        obtain ⟨conjunct, member, fails⟩ := rejected
        have inLater : conjunct ∈ groups.flatten :=
          (List.mem_append.mp member).resolve_left fun inGroup =>
            fires (answer.fires.mpr ⟨conjunct, inGroup, fails⟩)
        obtain ⟨failing, failingLater, named⟩ := ih ⟨conjunct, inLater, fails⟩
        rw [caseWhen, if_neg fires]
        exact ⟨failing, List.mem_append_right _ failingLater, named⟩

end Branches

theorem orders_message_namesFailure (row : OrdersSource)
    (rejected : OrderProcessor.processOrdersWithSQL.error.Selects row) :
    NamesFailure (OrderProcessor.cleanConjuncts row) (OrderProcessor.errorMessage row) := by
  have answers : List.Forall₂ Answers _ (OrderProcessor.messageBranches row) :=
    .cons (.ofColumn rfl (missingOrLong_iff row.orderId 50)) <|
    .cons (.ofColumn rfl (missingOrLong_iff row.customerId 50)) <|
    .cons (.ofColumn rfl (not_iff _)) <|
    .cons (.ofColumn rfl (missing_iff row.orderPurchaseTimestamp)) .nil
  exact caseWhen_namesFailure answers _ rejected

theorem orderItems_message_namesFailure (row : OrderItemsSource)
    (rejected : OrderItemProcessor.processOrderItemsWithSQL.error.Selects row) :
    NamesFailure (OrderItemProcessor.cleanConjuncts row) (OrderItemProcessor.errorMessage row) := by
  have answers : List.Forall₂ Answers _ (OrderItemProcessor.messageBranches row) :=
    .cons (.ofColumn rfl (missingOrLong_iff row.orderId 50)) <|
    .cons (.ofColumn rfl (missingOrLong_iff row.productId 50)) <|
    .cons (.ofColumn rfl (missingOrOutside_iff row.price 0 10000)) <|
    .cons (.ofColumn rfl (missingOrOutside_iff row.freightValue 0 10000)) .nil
  exact caseWhen_namesFailure answers _ rejected

theorem payments_message_namesFailure (row : PaymentsSource)
    (rejected : PaymentProcessor.processPaymentsWithSQL.error.Selects row) :
    NamesFailure (PaymentProcessor.cleanConjuncts row) (PaymentProcessor.errorMessage row) := by
  have answers : List.Forall₂ Answers _ (PaymentProcessor.messageBranches row) :=
    .cons (.ofColumn rfl (missingOrLong_iff row.orderId 50)) <|
    .cons (.ofColumn rfl (not_iff _)) <|
    .cons (.ofColumn rfl (missingOrAtMost_iff row.paymentValue 0)) <|
    .cons (.ofColumn rfl (above_iff row.paymentValue 50000)) .nil
  exact caseWhen_namesFailure answers _ rejected

theorem customers_message_namesFailure (row : CustomersSource)
    (rejected : CustomerProcessor.processCustomersWithSQL.error.Selects row) :
    NamesFailure (CustomerProcessor.cleanConjuncts row) (CustomerProcessor.errorMessage row) := by
  have answers : List.Forall₂ Answers _ (CustomerProcessor.messageBranches row) :=
    .cons (.ofColumn rfl (missingOrLong_iff row.customerId 50)) <|
    .cons (.ofColumn rfl (missingOrLong_iff row.customerUniqueId 50)) <|
    .cons (.ofColumn rfl (missingOrLong_iff row.customerCity 100)) <|
    .cons (.ofColumn rfl (missingOrLong_iff row.customerState 10)) .nil
  exact caseWhen_namesFailure answers _ rejected

theorem reviews_message_namesFailure (row : ReviewsSource)
    (rejected : ReviewProcessor.processReviewsWithSQL.error.Selects row) :
    NamesFailure (ReviewProcessor.cleanConjuncts row) (ReviewProcessor.errorMessage row) := by
  have answers : List.Forall₂ Answers _ (ReviewProcessor.messageBranches row) :=
    .cons (.ofColumn rfl (missingOrLong_iff row.orderId 50)) <|
    .cons (.ofColumn rfl (missingOrOutside_iff row.reviewScore 1 5)) .nil
  exact caseWhen_namesFailure answers _ rejected

theorem products_message_namesFailure (row : ProductsSource)
    (rejected : ProductProcessor.processProductsWithSQL.error.Selects row) :
    NamesFailure (ProductProcessor.cleanConjuncts row) (ProductProcessor.errorMessage row) := by
  have answers : List.Forall₂ Answers _ (ProductProcessor.messageBranches row) :=
    .cons (.ofColumn rfl (missingOrLong_iff row.productId 50)) <|
    .cons (.ofColumn rfl (missingOrLong_iff row.productCategoryName 100)) .nil
  exact caseWhen_namesFailure answers _ rejected

/-- Every rejected row carries a message about a column that fails its validation. -/
theorem error_messages_sound :
    (∀ now row, OrderProcessor.processOrdersWithSQL.error.Selects row →
      SoundMessage (OrderProcessor.cleanConjuncts row)
        (OrderProcessor.processOrdersWithSQL.error.select now row).errorMessage) ∧
    (∀ now row, OrderItemProcessor.processOrderItemsWithSQL.error.Selects row →
      SoundMessage (OrderItemProcessor.cleanConjuncts row)
        (OrderItemProcessor.processOrderItemsWithSQL.error.select now row).errorMessage) ∧
    (∀ now row, ProductProcessor.processProductsWithSQL.error.Selects row →
      SoundMessage (ProductProcessor.cleanConjuncts row)
        (ProductProcessor.processProductsWithSQL.error.select now row).errorMessage) ∧
    (∀ now row, ReviewProcessor.processReviewsWithSQL.error.Selects row →
      SoundMessage (ReviewProcessor.cleanConjuncts row)
        (ReviewProcessor.processReviewsWithSQL.error.select now row).errorMessage) ∧
    (∀ now row, PaymentProcessor.processPaymentsWithSQL.error.Selects row →
      SoundMessage (PaymentProcessor.cleanConjuncts row)
        (PaymentProcessor.processPaymentsWithSQL.error.select now row).errorMessage) ∧
    (∀ now row, CustomerProcessor.processCustomersWithSQL.error.Selects row →
      SoundMessage (CustomerProcessor.cleanConjuncts row)
        (CustomerProcessor.processCustomersWithSQL.error.select now row).errorMessage) :=
  ⟨fun _ row rejected => (orders_message_namesFailure row rejected).sound,
    fun _ row rejected => (orderItems_message_namesFailure row rejected).sound,
    fun _ row rejected => (products_message_namesFailure row rejected).sound,
    fun _ row rejected => (reviews_message_namesFailure row rejected).sound,
    fun _ row rejected => (payments_message_namesFailure row rejected).sound,
    fun _ row rejected => (customers_message_namesFailure row rejected).sound⟩

/-- One rejected row of each table meets the theorem. -/
theorem error_messages_sound_rejected_rows :
    SoundMessage (OrderProcessor.cleanConjuncts
        ⟨⟨some "o1", some "c1", some "lost", none, none, none⟩, none⟩) "Invalid order status" ∧
    SoundMessage (OrderItemProcessor.cleanConjuncts
        ⟨⟨some "o1", some "p1", some (-1), none⟩, none⟩) "Invalid price" ∧
    SoundMessage (ProductProcessor.cleanConjuncts ⟨⟨some "p1", none⟩, none⟩)
      "Invalid category name" ∧
    SoundMessage (ReviewProcessor.cleanConjuncts ⟨⟨some "o1", some 6⟩, none⟩)
      "Invalid review score (must be 1-5)" ∧
    SoundMessage (PaymentProcessor.cleanConjuncts ⟨⟨some "o1", none, some 0⟩, none⟩)
      "Invalid payment value" ∧
    SoundMessage (CustomerProcessor.cleanConjuncts ⟨⟨some "c1", none, none, some "SP"⟩, none⟩)
      "Invalid customer unique ID" :=
  ⟨error_messages_sound.1 0 _ (by decide), error_messages_sound.2.1 0 _ (by decide),
    error_messages_sound.2.2.1 0 _ (by decide), error_messages_sound.2.2.2.1 0 _ (by decide),
    error_messages_sound.2.2.2.2.1 0 _ (by decide), error_messages_sound.2.2.2.2.2 0 _ (by decide)⟩

end OdsPipeline
