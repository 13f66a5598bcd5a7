import OdsPipeline.Construction.CleanSchema
import OdsPipeline.Construction.CleanTables
import OdsPipeline.Construction.ErrorSchema
import OdsPipeline.Proof.Routing

namespace OdsPipeline
open Library SqlQueries Postgres StarRocks

/-- A nullable text fits a number of UTF-8 bytes. -/
def FitsBytes (bound : Nat) (value : Option String) : Prop :=
  ∀ text ∈ value, text.utf8ByteSize ≤ bound

instance (bound : Nat) (value : Option String) : Decidable (FitsBytes bound value) :=
  inferInstanceAs (Decidable (∀ text ∈ value, _))

attribute [local simp] TableDef.Admits Record.Present TableDef.required TableDef.Fits Record.cell
  List.lookup_cons Cell.ofOption_eq_null_iff SqlType.fits_varchar_text SqlType.fits_varchar_ofOption
  SqlType.fits_of_ne_varchar CleanSchema.loadCells ErrorSchema.reportCells

section CleanRecords

/-- A member of a list of short constants fits the list's bound. -/
theorem fitsBytes_of_mem {bound : Nat} {constants : List String} {text : String}
    (member : text ∈ constants) (every : ∀ constant ∈ constants, constant.utf8ByteSize ≤ bound) :
    text.utf8ByteSize ≤ bound := every text member

theorem orders_admitted_iff (now : Timestamp) (row : OrdersSource)
    (selected : OrderProcessor.processOrdersWithSQL.clean.Selects row) :
    CleanSchema.odsOrders.Admits
        (CleanSchema.ordersRecord (OrderProcessor.processOrdersWithSQL.clean.select now row)) ↔
      row.isDeleted ≠ none ∧ FitsBytes 50 row.orderId ∧ FitsBytes 50 row.customerId := by
  have valid := (whereAll_eq_true_iff (OrderProcessor.cleanConjuncts row)).mp selected
  simp only [OrderProcessor.cleanConjuncts, List.forall_mem_cons, isNotNull_eq_true_iff,
    check_eq_true_iff, decide_eq_true_eq, Option.isSome_iff_exists] at valid
  obtain ⟨⟨order, hasOrder⟩, -, ⟨customer, hasCustomer⟩, -, ⟨status, hasStatus, known⟩,
    ⟨purchase, hasPurchase⟩, -⟩ := valid
  have short : status.utf8ByteSize ≤ 20 := fitsBytes_of_mem known (by decide)
  simp [CleanSchema.odsOrders, CleanSchema.ordersRecord, OrderProcessor.processOrdersWithSQL,
    cleanRow, OrderProcessor.cleanSelect, hasOrder, hasCustomer, hasStatus, hasPurchase, short,
    FitsBytes]

theorem orderItems_admitted_iff (now : Timestamp) (row : OrderItemsSource)
    (selected : OrderItemProcessor.processOrderItemsWithSQL.clean.Selects row) :
    CleanSchema.odsOrderItems.Admits
        (CleanSchema.orderItemsRecord
          (OrderItemProcessor.processOrderItemsWithSQL.clean.select now row)) ↔
      row.isDeleted ≠ none ∧ FitsBytes 50 row.orderId ∧ FitsBytes 50 row.productId := by
  have valid := (whereAll_eq_true_iff (OrderItemProcessor.cleanConjuncts row)).mp selected
  simp only [OrderItemProcessor.cleanConjuncts, List.forall_mem_cons, isNotNull_eq_true_iff,
    Option.isSome_iff_exists] at valid
  obtain ⟨⟨order, hasOrder⟩, -, ⟨product, hasProduct⟩, -, ⟨price, hasPrice⟩, -, -,
    ⟨freight, hasFreight⟩, -⟩ := valid
  have short : (OrderItemProcessor.cleanSelect row).priceCategory.utf8ByteSize ≤ 10 := by
    apply fitsBytes_of_mem (caseWhen_mem_values _ _)
    change ∀ constant ∈ ["Budget", "Premium", "Standard"], _
    decide
  simp [CleanSchema.odsOrderItems, CleanSchema.orderItemsRecord,
    OrderItemProcessor.processOrderItemsWithSQL, cleanRow, short, FitsBytes]
  simp [OrderItemProcessor.cleanSelect, hasOrder, hasProduct, hasPrice, hasFreight]

theorem products_admitted_iff (now : Timestamp) (row : ProductsSource)
    (selected : ProductProcessor.processProductsWithSQL.clean.Selects row) :
    CleanSchema.odsProducts.Admits
        (CleanSchema.productsRecord
          (ProductProcessor.processProductsWithSQL.clean.select now row)) ↔
      row.isDeleted ≠ none ∧ FitsBytes 50 row.productId ∧
        FitsBytes 100 row.productCategoryName := by
  have valid := (whereAll_eq_true_iff (ProductProcessor.cleanConjuncts row)).mp selected
  simp only [ProductProcessor.cleanConjuncts, List.forall_mem_cons, isNotNull_eq_true_iff,
    Option.isSome_iff_exists] at valid
  obtain ⟨⟨product, hasProduct⟩, -, ⟨name, hasName⟩, -⟩ := valid
  have short : (ProductProcessor.cleanSelect row).categoryGroup.utf8ByteSize ≤ 50 := by
    apply fitsBytes_of_mem (caseWhen_mem_values _ _)
    change ∀ constant ∈ ["Other", "Electronics", "Fashion", "Home", "Sports"], _
    decide
  simp [CleanSchema.odsProducts, CleanSchema.productsRecord,
    ProductProcessor.processProductsWithSQL, cleanRow, short, FitsBytes]
  simp [ProductProcessor.cleanSelect, hasProduct, hasName]

theorem reviews_admitted_iff (now : Timestamp) (row : ReviewsSource)
    (selected : ReviewProcessor.processReviewsWithSQL.clean.Selects row) :
    CleanSchema.odsReviews.Admits
        (CleanSchema.reviewsRecord (ReviewProcessor.processReviewsWithSQL.clean.select now row)) ↔
      row.isDeleted ≠ none ∧ FitsBytes 50 row.orderId := by
  have valid := (whereAll_eq_true_iff (ReviewProcessor.cleanConjuncts row)).mp selected
  simp only [ReviewProcessor.cleanConjuncts, List.forall_mem_cons, isNotNull_eq_true_iff,
    Option.isSome_iff_exists] at valid
  obtain ⟨⟨order, hasOrder⟩, -, ⟨score, hasScore⟩, -⟩ := valid
  have short : (ReviewProcessor.cleanSelect row).reviewCategory.utf8ByteSize ≤ 20 := by
    apply fitsBytes_of_mem (caseWhen_mem_values _ _)
    change ∀ constant ∈ ["Poor", "Excellent", "Good", "Fair"], _
    decide
  simp [CleanSchema.odsReviews, CleanSchema.reviewsRecord, ReviewProcessor.processReviewsWithSQL,
    cleanRow, short, FitsBytes]
  simp [ReviewProcessor.cleanSelect, hasOrder, hasScore]

theorem payments_admitted_iff (now : Timestamp) (row : PaymentsSource)
    (selected : PaymentProcessor.processPaymentsWithSQL.clean.Selects row) :
    CleanSchema.odsPayments.Admits
        (CleanSchema.paymentsRecord
          (PaymentProcessor.processPaymentsWithSQL.clean.select now row)) ↔
      row.isDeleted ≠ none ∧ FitsBytes 50 row.orderId := by
  have valid := (whereAll_eq_true_iff (PaymentProcessor.cleanConjuncts row)).mp selected
  simp only [PaymentProcessor.cleanConjuncts, List.forall_mem_cons, isNotNull_eq_true_iff,
    check_eq_true_iff, decide_eq_true_eq, Option.isSome_iff_exists] at valid
  obtain ⟨⟨order, hasOrder⟩, -, ⟨type, hasType, known⟩, ⟨value, hasValue⟩, -⟩ := valid
  have shortType : type.utf8ByteSize ≤ 20 := fitsBytes_of_mem known (by decide)
  have short : (PaymentProcessor.cleanSelect row).paymentCategory.utf8ByteSize ≤ 30 := by
    apply fitsBytes_of_mem (caseWhen_mem_values _ _)
    change ∀ constant ∈ ["Low Value Payment", "High Value Payment", "Medium Value Payment"], _
    decide
  simp [CleanSchema.odsPayments, CleanSchema.paymentsRecord,
    PaymentProcessor.processPaymentsWithSQL, cleanRow, short, FitsBytes]
  simp [PaymentProcessor.cleanSelect, hasOrder, hasType, hasValue, shortType]

theorem customers_admitted_iff (now : Timestamp) (row : CustomersSource)
    (selected : CustomerProcessor.processCustomersWithSQL.clean.Selects row) :
    CleanSchema.odsCustomers.Admits
        (CleanSchema.customersRecord
          (CustomerProcessor.processCustomersWithSQL.clean.select now row)) ↔
      row.isDeleted ≠ none ∧ FitsBytes 50 row.customerId ∧ FitsBytes 50 row.customerUniqueId ∧
        FitsBytes 100 row.customerCity ∧ FitsBytes 10 row.customerState := by
  have valid := (whereAll_eq_true_iff (CustomerProcessor.cleanConjuncts row)).mp selected
  simp only [CustomerProcessor.cleanConjuncts, List.forall_mem_cons, isNotNull_eq_true_iff,
    Option.isSome_iff_exists] at valid
  obtain ⟨⟨customer, hasCustomer⟩, -, ⟨unique, hasUnique⟩, -, ⟨city, hasCity⟩, -,
    ⟨state, hasState⟩, -⟩ := valid
  have short : (CustomerProcessor.cleanSelect row).stateRegion.utf8ByteSize ≤ 20 := by
    apply fitsBytes_of_mem (caseWhen_mem_values _ _)
    change ∀ constant ∈ ["North", "Southeast", "South", "Northeast", "Central-West"], _
    decide
  simp [CleanSchema.odsCustomers, CleanSchema.customersRecord,
    CustomerProcessor.processCustomersWithSQL, cleanRow, short, FitsBytes]
  simp [CustomerProcessor.cleanSelect, hasCustomer, hasUnique, hasCity, hasState]

/-- The target admits a clean row exactly when its is_deleted is known and its passed-through
texts fit the target columns in UTF-8 bytes. -/
theorem clean_rows_admitted_iff (now : Timestamp) :
    (∀ row : OrdersRow, OrderProcessor.processOrdersWithSQL.clean.Selects row.toSource →
      (CleanSchema.odsOrders.Admits (CleanSchema.ordersRecord
          (OrderProcessor.processOrdersWithSQL.clean.select now row.toSource)) ↔
        row.isDeleted ≠ none ∧ FitsBytes 50 (some row.orderId.val) ∧
          FitsBytes 50 (toText row.customerId))) ∧
    (∀ row : OrderItemsRow,
      OrderItemProcessor.processOrderItemsWithSQL.clean.Selects row.toSource →
      (CleanSchema.odsOrderItems.Admits (CleanSchema.orderItemsRecord
          (OrderItemProcessor.processOrderItemsWithSQL.clean.select now row.toSource)) ↔
        row.isDeleted ≠ none ∧ FitsBytes 50 (toText row.orderId) ∧
          FitsBytes 50 (toText row.productId))) ∧
    (∀ row : ProductsRow, ProductProcessor.processProductsWithSQL.clean.Selects row.toSource →
      (CleanSchema.odsProducts.Admits (CleanSchema.productsRecord
          (ProductProcessor.processProductsWithSQL.clean.select now row.toSource)) ↔
        row.isDeleted ≠ none ∧ FitsBytes 50 (some row.productId.val) ∧
          FitsBytes 100 (toText row.productCategoryName))) ∧
    (∀ row : ReviewsRow, ReviewProcessor.processReviewsWithSQL.clean.Selects row.toSource →
      (CleanSchema.odsReviews.Admits (CleanSchema.reviewsRecord
          (ReviewProcessor.processReviewsWithSQL.clean.select now row.toSource)) ↔
        row.isDeleted ≠ none ∧ FitsBytes 50 (toText row.orderId))) ∧
    (∀ row : PaymentsRow, PaymentProcessor.processPaymentsWithSQL.clean.Selects row.toSource →
      (CleanSchema.odsPayments.Admits (CleanSchema.paymentsRecord
          (PaymentProcessor.processPaymentsWithSQL.clean.select now row.toSource)) ↔
        row.isDeleted ≠ none ∧ FitsBytes 50 (toText row.orderId))) ∧
    (∀ row : CustomersRow, CustomerProcessor.processCustomersWithSQL.clean.Selects row.toSource →
      (CleanSchema.odsCustomers.Admits (CleanSchema.customersRecord
          (CustomerProcessor.processCustomersWithSQL.clean.select now row.toSource)) ↔
        row.isDeleted ≠ none ∧ FitsBytes 50 (some row.customerId.val) ∧
          FitsBytes 50 (toText row.customerUniqueId) ∧ FitsBytes 100 (toText row.customerCity) ∧
          FitsBytes 10 (toText row.customerState))) :=
  ⟨fun row => orders_admitted_iff now row.toSource,
    fun row => orderItems_admitted_iff now row.toSource,
    fun row => products_admitted_iff now row.toSource,
    fun row => reviews_admitted_iff now row.toSource,
    fun row => payments_admitted_iff now row.toSource,
    fun row => customers_admitted_iff now row.toSource⟩

/-- These rows reach their target tables. -/
theorem plain_rows_admitted :
    CleanSchema.odsOrders.Admits (CleanSchema.ordersRecord
      (OrderProcessor.processOrdersWithSQL.clean.select 0
        (OrdersRow.toSource ⟨⟨"o1", by decide⟩, some ⟨"c1", by decide⟩,
          some ⟨"shipped", by decide⟩, some 0, none, none, some false⟩))) ∧
    CleanSchema.odsOrderItems.Admits (CleanSchema.orderItemsRecord
      (OrderItemProcessor.processOrderItemsWithSQL.clean.select 0
        (OrderItemsRow.toSource ⟨1, some ⟨"o1", by decide⟩, some ⟨"p1", by decide⟩, some 10,
          some 2, some false⟩))) ∧
    CleanSchema.odsProducts.Admits (CleanSchema.productsRecord
      (ProductProcessor.processProductsWithSQL.clean.select 0
        (ProductsRow.toSource ⟨⟨"p1", by decide⟩, some ⟨"toys", by decide⟩, some false⟩))) ∧
    CleanSchema.odsReviews.Admits (CleanSchema.reviewsRecord
      (ReviewProcessor.processReviewsWithSQL.clean.select 0
        (ReviewsRow.toSource ⟨⟨"r1", by decide⟩, some ⟨"o1", by decide⟩, some 5, some false⟩))) ∧
    CleanSchema.odsPayments.Admits (CleanSchema.paymentsRecord
      (PaymentProcessor.processPaymentsWithSQL.clean.select 0
        (PaymentsRow.toSource ⟨1, some ⟨"o1", by decide⟩, some ⟨"boleto", by decide⟩, some 12,
          some false⟩))) ∧
    CleanSchema.odsCustomers.Admits (CleanSchema.customersRecord
      (CustomerProcessor.processCustomersWithSQL.clean.select 0
        (CustomersRow.toSource ⟨⟨"c1", by decide⟩, some ⟨"u1", by decide⟩,
          some ⟨"São Paulo", by decide⟩, some ⟨"SP", by decide⟩, some false⟩))) :=
  ⟨((clean_rows_admitted_iff 0).1 _ (by decide)).mpr (by decide),
    ((clean_rows_admitted_iff 0).2.1 _ (by decide)).mpr (by decide),
    ((clean_rows_admitted_iff 0).2.2.1 _ (by decide)).mpr (by decide),
    ((clean_rows_admitted_iff 0).2.2.2.1 _ (by decide)).mpr (by decide),
    ((clean_rows_admitted_iff 0).2.2.2.2.1 _ (by decide)).mpr (by decide),
    ((clean_rows_admitted_iff 0).2.2.2.2.2 _ (by decide)).mpr (by decide)⟩

def unflaggedCustomer : CustomersRow :=
  ⟨customerOne, some personOne, some lima, some saoPaulo, none⟩

/-- Ten accented letters take twenty bytes. -/
def accentedCustomer : CustomersRow :=
  ⟨customerOne, some personOne, some lima, some ⟨"ãããããããããã", by decide⟩, some false⟩

/-- The clean WHERE clause selects two customers that the target table rejects. -/
theorem selected_customers_rejected :
    (CustomerProcessor.processCustomersWithSQL.clean.Selects unflaggedCustomer.toSource ∧
      ¬ CleanSchema.odsCustomers.Admits (CleanSchema.customersRecord
        (CustomerProcessor.processCustomersWithSQL.clean.select 0 unflaggedCustomer.toSource))) ∧
    (CustomerProcessor.processCustomersWithSQL.clean.Selects accentedCustomer.toSource ∧
      ¬ CleanSchema.odsCustomers.Admits (CleanSchema.customersRecord
        (CustomerProcessor.processCustomersWithSQL.clean.select 0 accentedCustomer.toSource))) := by
  have unflagged : CustomerProcessor.processCustomersWithSQL.clean.Selects
      unflaggedCustomer.toSource := by decide
  have accented : CustomerProcessor.processCustomersWithSQL.clean.Selects
      accentedCustomer.toSource := by decide
  refine ⟨⟨unflagged, ?_⟩, accented, ?_⟩
  · rw [customers_admitted_iff 0 _ unflagged]
    decide
  · rw [customers_admitted_iff 0 _ accented]
    decide

end CleanRecords

section ErrorRecords

/-- An error table can store a record that has every NOT NULL column and every key column. -/
def Storable (table : TableDef) (sinkKey : List String) (record : Record) : Prop :=
  record.Present table.required ∧ record.Present table.primaryKey ∧ record.Present sinkKey

instance (table : TableDef) (sinkKey : List String) (record : Record) :
    Decidable (Storable table sinkKey record) := inferInstanceAs (Decidable (_ ∧ _))

/-- The error tables can store each row except the rows with a NULL in their own key. -/
theorem error_rows_storable_iff (now : Timestamp) :
    (∀ row : OrdersRow, Storable ErrorSchema.odsOrdersError ErrorSchema.ordersErrorSink
      (ErrorSchema.ordersRecord
        (OrderProcessor.processOrdersWithSQL.error.select now row.toSource))) ∧
    (∀ row : OrderItemsRow,
      Storable ErrorSchema.odsOrderItemsError ErrorSchema.orderItemsErrorSink
        (ErrorSchema.orderItemsRecord
          (OrderItemProcessor.processOrderItemsWithSQL.error.select now row.toSource)) ↔
        row.orderId ≠ none ∧ row.productId ≠ none) ∧
    (∀ row : ProductsRow, Storable ErrorSchema.odsProductsError ErrorSchema.productsErrorSink
      (ErrorSchema.productsRecord
        (ProductProcessor.processProductsWithSQL.error.select now row.toSource))) ∧
    (∀ row : ReviewsRow, Storable ErrorSchema.odsReviewsError ErrorSchema.reviewsErrorSink
        (ErrorSchema.reviewsRecord
          (ReviewProcessor.processReviewsWithSQL.error.select now row.toSource)) ↔
        row.orderId ≠ none) ∧
    (∀ row : PaymentsRow, Storable ErrorSchema.odsPaymentsError ErrorSchema.paymentsErrorSink
        (ErrorSchema.paymentsRecord
          (PaymentProcessor.processPaymentsWithSQL.error.select now row.toSource)) ↔
        row.orderId ≠ none ∧ row.paymentType ≠ none) ∧
    (∀ row : CustomersRow, Storable ErrorSchema.odsCustomersError ErrorSchema.customersErrorSink
      (ErrorSchema.customersRecord
        (CustomerProcessor.processCustomersWithSQL.error.select now row.toSource))) := by
  refine ⟨fun row => ?_, fun row => ?_, fun row => ?_, fun row => ?_, fun row => ?_, fun row => ?_⟩
  · simp [Storable, ErrorSchema.odsOrdersError, ErrorSchema.ordersErrorSink,
      ErrorSchema.ordersRecord, OrderProcessor.processOrdersWithSQL, errorRow, OrdersRow.toSource]
  · simp [Storable, ErrorSchema.odsOrderItemsError, ErrorSchema.orderItemsErrorSink,
      ErrorSchema.orderItemsRecord, OrderItemProcessor.processOrderItemsWithSQL, errorRow,
      OrderItemsRow.toSource]
  · simp [Storable, ErrorSchema.odsProductsError, ErrorSchema.productsErrorSink,
      ErrorSchema.productsRecord, ProductProcessor.processProductsWithSQL, errorRow,
      ProductsRow.toSource]
  · simp [Storable, ErrorSchema.odsReviewsError, ErrorSchema.reviewsErrorSink,
      ErrorSchema.reviewsRecord, ReviewProcessor.processReviewsWithSQL, errorRow,
      ReviewsRow.toSource]
  · simp [Storable, ErrorSchema.odsPaymentsError, ErrorSchema.paymentsErrorSink,
      ErrorSchema.paymentsRecord, PaymentProcessor.processPaymentsWithSQL, errorRow,
      PaymentsRow.toSource]
  · simp [Storable, ErrorSchema.odsCustomersError, ErrorSchema.customersErrorSink,
      ErrorSchema.customersRecord, CustomerProcessor.processCustomersWithSQL, errorRow,
      CustomersRow.toSource]

def orphanItem : OrderItemsRow := ⟨1, none, some productOne, some 10, some 2, some false⟩

def untypedPayment : PaymentsRow := ⟨1, some orderOne, none, some 0, some false⟩

def orphanReview : ReviewsRow := ⟨reviewOne, none, some 5, some false⟩

/-- The error WHERE clauses select three rows that their error tables cannot store. -/
theorem selected_errors_not_storable :
    (OrderItemProcessor.processOrderItemsWithSQL.error.Selects orphanItem.toSource ∧
      ¬ Storable ErrorSchema.odsOrderItemsError ErrorSchema.orderItemsErrorSink
        (ErrorSchema.orderItemsRecord
          (OrderItemProcessor.processOrderItemsWithSQL.error.select 0 orphanItem.toSource))) ∧
    (PaymentProcessor.processPaymentsWithSQL.error.Selects untypedPayment.toSource ∧
      ¬ Storable ErrorSchema.odsPaymentsError ErrorSchema.paymentsErrorSink
        (ErrorSchema.paymentsRecord
          (PaymentProcessor.processPaymentsWithSQL.error.select 0 untypedPayment.toSource))) ∧
    (ReviewProcessor.processReviewsWithSQL.error.Selects orphanReview.toSource ∧
      ¬ Storable ErrorSchema.odsReviewsError ErrorSchema.reviewsErrorSink
        (ErrorSchema.reviewsRecord
          (ReviewProcessor.processReviewsWithSQL.error.select 0 orphanReview.toSource))) := by
  refine ⟨⟨by decide, fun storable => ?_⟩, ⟨by decide, fun storable => ?_⟩, by decide,
    fun storable => ?_⟩
  · exact storable.1 "order_id" (by decide) (by decide)
  · exact storable.2.1 "payment_type" (by decide) (by decide)
  · exact storable.1 "order_id" (by decide) (by decide)

end ErrorRecords

end OdsPipeline
