import OdsPipeline.Construction.SampleData
import OdsPipeline.Proof.Caches

namespace OdsPipeline
open Library Postgres

namespace SampleData

section Copies
variable {Row Key : Type} [DecidableEq Key] {keyOf : Row → Key}

/-- The rows have new and distinct keys, and the next table has them behind the stored rows. -/
def Appends (table : KeyedTable keyOf) (rows : List Row) (next : KeyedTable keyOf) : Prop :=
  ((table.rows ++ rows).map keyOf).Nodup ∧ next.rows = table.rows ++ rows

theorem copyRows_eq_ok_iff (constraint : String) (table next : KeyedTable keyOf)
    (rows : List Row) : copyRows constraint table rows = .ok next ↔ Appends table rows next := by
  rw [Appends]
  induction rows generalizing table with
  | nil =>
      rw [List.append_nil, and_iff_right table.distinct, copyRows, List.foldlM_nil]
      change Except.ok table = Except.ok next ↔ _
      rw [Except.ok.injEq]
      constructor
      · rintro rfl
        rfl
      · intro same
        exact KeyedTable.eq_of_rows same.symm
  | cons row rest ih =>
      rw [copyRows, List.foldlM_cons, bind_eq_ok_iff, ← List.singleton_append,
        ← List.append_assoc]
      constructor
      · rintro ⟨middle, inserted, done⟩
        obtain ⟨fresh, rfl⟩ := (insertRow_eq_ok_iff _ _ _ _).mp inserted
        rw [← table.rows_commit_insert row fresh]
        exact (ih _).mp done
      · rintro ⟨distinct, stored⟩
        have fresh : table.lookup (keyOf row) = none := by
          rw [KeyedTable.lookup_eq_none_iff]
          intro other member same
          rw [List.map_append, List.map_append, List.nodup_append', List.nodup_append'] at distinct
          exact distinct.1.2.2 (List.mem_map_of_mem member) (List.mem_singleton.mpr same)
        rw [← table.rows_commit_insert row fresh] at distinct stored
        exact ⟨_, (insertRow_eq_ok_iff _ _ _ _).mpr ⟨fresh, rfl⟩, (ih _).mpr ⟨distinct, stored⟩⟩

theorem checkReferences_eq_ok_iff (constraint : String) (references : List (Option Key))
    (table : KeyedTable keyOf) (done : Unit) :
    checkReferences constraint references table = .ok done ↔
      ∀ reference ∈ references, References reference table := by
  induction references with
  | nil => exact iff_of_true rfl fun _ member => absurd member List.not_mem_nil
  | cons reference rest ih =>
      change (checkReference constraint reference table >>= fun _ =>
        checkReferences constraint rest table) = .ok done ↔ _
      rw [bind_eq_ok_iff, List.forall_mem_cons]
      constructor
      · rintro ⟨middle, checked, later⟩
        exact ⟨(checkReference_eq_ok_iff _ _ _ _).mp checked, ih.mp later⟩
      · rintro ⟨checked, later⟩
        exact ⟨(), (checkReference_eq_ok_iff _ _ _ _).mpr checked, ih.mpr later⟩

/-- A reference stays valid when its table gains rows. -/
theorem references_append {reference : Option Key} {table next : KeyedTable keyOf}
    {rows : List Row} (grown : next.rows = table.rows ++ rows)
    (holds : References reference table) : References reference next := by
  rw [references_iff] at holds ⊢
  intro key named
  obtain ⟨row, member, same⟩ := holds key named
  exact ⟨row, grown ▸ List.mem_append_left rows member, same⟩

end Copies

section Statements
variable (loading next : Loading)

theorem pure_eq_ok_iff {α : Type} (value other : α) :
    (pure value : Except SqlError α) = .ok other ↔ other = value := by
  change Except.ok value = Except.ok other ↔ _
  rw [Except.ok.injEq, eq_comm]

theorem copyCustomers_eq_ok_iff (lines : List (Line CustomersLine)) :
    copyCustomers lines loading = .ok next ↔ ∃ rows, readLines CustomersLine.row lines = .ok rows ∧
      ∃ customers, Appends loading.database.customers rows customers ∧
        next = { loading with database := { loading.database with customers := customers } } := by
  simp only [copyCustomers, bind_eq_ok_iff, copyRows_eq_ok_iff, pure_eq_ok_iff]

theorem copySellers_eq_ok_iff (lines : List (Line SellersLine)) :
    copySellers lines loading = .ok next ↔ ∃ rows, readLines SellersLine.row lines = .ok rows ∧
      ∃ sellers, Appends loading.sellers rows sellers ∧
        next = { loading with sellers := sellers } := by
  simp only [copySellers, bind_eq_ok_iff, copyRows_eq_ok_iff, pure_eq_ok_iff]

theorem copyProducts_eq_ok_iff (lines : List (Line ProductsLine)) :
    copyProducts lines loading = .ok next ↔ ∃ rows, readLines ProductsLine.row lines = .ok rows ∧
      ∃ products, Appends loading.database.products rows products ∧
        next = { loading with database := { loading.database with products := products } } := by
  simp only [copyProducts, bind_eq_ok_iff, copyRows_eq_ok_iff, pure_eq_ok_iff]

theorem copyOrders_eq_ok_iff (lines : List (Line OrdersLine)) :
    copyOrders lines loading = .ok next ↔ ∃ rows, readLines OrdersLine.row lines = .ok rows ∧
      ∃ orders, Appends loading.database.orders rows orders ∧
        (∀ row ∈ rows, References row.customerId loading.database.customers) ∧
        next = { loading with database := { loading.database with orders := orders } } := by
  simp only [copyOrders, bind_eq_ok_iff, copyRows_eq_ok_iff, checkReferences_eq_ok_iff,
    pure_eq_ok_iff, List.forall_mem_map, exists_const]

theorem copyOrderItems_eq_ok_iff (lines : List (Line OrderItemsLine)) :
    copyOrderItems lines loading = .ok next ↔
      ∃ rows, readNumberedLines OrderItemsLine.row lines = .ok rows ∧
        ∃ orderItems, Appends loading.database.orderItems (rows.map ItemWithSeller.item) orderItems ∧
          (∀ row ∈ rows, References row.item.orderId loading.database.orders) ∧
          (∀ row ∈ rows, References row.item.productId loading.database.products) ∧
          (∀ row ∈ rows, References row.sellerId loading.sellers) ∧
          next = { loading with
            database := { loading.database with orderItems := orderItems } } := by
  simp only [copyOrderItems, bind_eq_ok_iff, copyRows_eq_ok_iff, checkReferences_eq_ok_iff,
    pure_eq_ok_iff, List.forall_mem_map, exists_const]

theorem copyPayments_eq_ok_iff (lines : List (Line PaymentsLine)) :
    copyPayments lines loading = .ok next ↔
      ∃ rows, readNumberedLines PaymentsLine.row lines = .ok rows ∧
        ∃ payments, Appends loading.database.payments rows payments ∧
          (∀ row ∈ rows, References row.orderId loading.database.orders) ∧
          next = { loading with database := { loading.database with payments := payments } } := by
  simp only [copyPayments, bind_eq_ok_iff, copyRows_eq_ok_iff, checkReferences_eq_ok_iff,
    pure_eq_ok_iff, List.forall_mem_map, exists_const]

theorem copyTempReviews_eq_ok_iff (lines : List (Line ReviewsLine)) :
    copyTempReviews lines loading = .ok next ↔ ∃ rows, readLines ReviewsLine.row lines = .ok rows ∧
      next = { loading with tempReviews := loading.tempReviews ++ rows } := by
  simp only [copyTempReviews, bind_eq_ok_iff, pure_eq_ok_iff]

/-- The picked rows whose reviews are not stored yet. -/
def freshReviews (reviews : KeyedTable ReviewsRow.reviewId) (rows : List ReviewsRow) :
    List ReviewsRow :=
  rows.filter fun row => (reviews.lookup row.reviewId).isNone

theorem insertReviews_eq_ok_iff (distinctOn : DistinctOn TempReview.reviewId) :
    insertReviews distinctOn loading = .ok next ↔
      ∃ rows, (distinctOn.pick loading.tempReviews).mapM TempReview.row = .ok rows ∧
        ∃ reviews, Appends loading.database.reviews
            (freshReviews loading.database.reviews rows) reviews ∧
          (∀ row ∈ freshReviews loading.database.reviews rows,
            References row.orderId loading.database.orders) ∧
          next = { loading with database := { loading.database with reviews := reviews } } := by
  simp only [insertReviews, bind_eq_ok_iff, copyRows_eq_ok_iff, checkReferences_eq_ok_iff,
    pure_eq_ok_iff, List.forall_mem_map, exists_const]
  rfl

end Statements

section Keys
variable {loading next : Loading}

/-- References of stored and of appended rows. -/
theorem forall_appended {Row Key : Type} {keyOf : Row → Key} {table next : KeyedTable keyOf}
    {rows : List Row} (appends : Appends table rows next) {holds : Row → Prop}
    (old : ∀ row ∈ table.rows, holds row) (new : ∀ row ∈ rows, holds row) :
    ∀ row ∈ next.rows, holds row := by
  rw [appends.2, List.forall_mem_append]
  exact ⟨old, new⟩

/-- Each successful statement of the script keeps the foreign keys. -/
theorem statement_keeps (files : Files) (distinctOn : DistinctOn TempReview.reviewId) :
    ∀ statement ∈ statements files distinctOn, ∀ loading next : Loading,
      loading.database.ForeignKeys → statement loading = .ok next →
        next.database.ForeignKeys := by
  intro statement member loading next keys done
  simp only [statements, List.mem_cons, List.not_mem_nil, or_false] at member
  rcases member with rfl | rfl | rfl | rfl | rfl | rfl | rfl | rfl
  · obtain ⟨rows, -, customers, appends, rfl⟩ := (copyCustomers_eq_ok_iff _ _ _).mp done
    exact { keys with
      ordersCustomer := fun order stored =>
        references_append appends.2 (keys.ordersCustomer order stored) }
  · obtain ⟨rows, -, sellers, -, rfl⟩ := (copySellers_eq_ok_iff _ _ _).mp done
    exact keys
  · obtain ⟨rows, -, products, appends, rfl⟩ := (copyProducts_eq_ok_iff _ _ _).mp done
    exact { keys with
      orderItemsProduct := fun item stored =>
        references_append appends.2 (keys.orderItemsProduct item stored) }
  · obtain ⟨rows, -, orders, appends, customers, rfl⟩ := (copyOrders_eq_ok_iff _ _ _).mp done
    exact { keys with
      ordersCustomer := forall_appended appends keys.ordersCustomer customers
      orderItemsOrder := fun item stored =>
        references_append appends.2 (keys.orderItemsOrder item stored)
      paymentsOrder := fun payment stored =>
        references_append appends.2 (keys.paymentsOrder payment stored)
      reviewsOrder := fun review stored =>
        references_append appends.2 (keys.reviewsOrder review stored) }
  · obtain ⟨rows, -, items, appends, orders, products, -, rfl⟩ :=
      (copyOrderItems_eq_ok_iff _ _ _).mp done
    exact { keys with
      orderItemsOrder := forall_appended appends keys.orderItemsOrder
        (List.forall_mem_map.mpr orders)
      orderItemsProduct := forall_appended appends keys.orderItemsProduct
        (List.forall_mem_map.mpr products) }
  · obtain ⟨rows, -, payments, appends, orders, rfl⟩ := (copyPayments_eq_ok_iff _ _ _).mp done
    exact { keys with
      paymentsOrder := forall_appended appends keys.paymentsOrder orders }
  · obtain ⟨rows, -, rfl⟩ := (copyTempReviews_eq_ok_iff _ _ _).mp done
    exact keys
  · obtain ⟨rows, -, reviews, appends, orders, rfl⟩ := (insertReviews_eq_ok_iff _ _ _).mp done
    exact { keys with
      reviewsOrder := forall_appended appends keys.reviewsOrder orders }

theorem foreignKeys_empty : Database.empty.ForeignKeys := by
  constructor <;> exact fun _ stored => absurd stored List.not_mem_nil

end Keys

section Reading
variable {Fields Row Name : Type}

theorem mapM_eq_ok_iff (read : Fields → Except SqlError Row) (lines : List Fields)
    (rows : List Row) : lines.mapM read = .ok rows ↔
      List.Forall₂ (fun line row => read line = .ok row) lines rows := by
  induction lines generalizing rows with
  | nil =>
      rw [List.mapM_nil, pure_eq_ok_iff, List.forall₂_nil_left_iff]
  | cons line rest ih =>
      simp only [List.mapM_cons, bind_eq_ok_iff, pure_eq_ok_iff, List.forall₂_cons_left_iff]
      constructor
      · rintro ⟨row, first, later, done, rfl⟩
        exact ⟨row, later, first, (ih later).mp done, rfl⟩
      · rintro ⟨row, later, first, done, rfl⟩
        exact ⟨row, first, later, (ih later).mpr done, rfl⟩

/-- Rows keep a name that their lines give them. -/
theorem map_of_mapM (read : Fields → Except SqlError Row) (nameOf : Row → Name)
    (given : Fields → Name) (named : ∀ line row, read line = .ok row → given line = nameOf row)
    (lines : List Fields) (rows : List Row) (done : lines.mapM read = .ok rows) :
    rows.map nameOf = lines.map given := by
  have each := (mapM_eq_ok_iff read lines rows).mp done
  have same : List.Forall₂ Eq (lines.map given) (rows.map nameOf) := by
    rw [List.forall₂_map_left_iff, List.forall₂_map_right_iff]
    exact each.imp fun line row => named line row
  rw [List.forall₂_eq_eq_eq] at same
  exact same.symm

/-- The serial keys of a file are different. -/
theorem nodup_of_numbered (row : Fields → Nat → Except SqlError Row) (idOf : Row → Nat)
    (named : ∀ fields id stored, row fields id = .ok stored → idOf stored = id)
    (lines : List (Line Fields)) (rows : List Row)
    (done : readNumberedLines row lines = .ok rows) : (rows.map idOf).Nodup := by
  have ids := map_of_mapM (fun entry : Line Fields × Nat => entry.1 >>= fun fields =>
    row fields entry.2) idOf Prod.snd (fun entry stored read => by
      obtain ⟨fields, -, isRow⟩ := (bind_eq_ok_iff _ _ _).mp read
      exact (named fields entry.2 stored isRow).symm) (lines.zipIdx 1) rows done
  rw [ids, List.zipIdx_map_snd]
  exact List.nodup_range'

end Reading

/-- The rows that the lines of the files stand for. -/
structure FileRows where
  customers : List CustomersRow
  sellers : List SellersRow
  products : List ProductsRow
  orders : List OrdersRow
  orderItems : List ItemWithSeller
  payments : List PaymentsRow
  tempReviews : List TempReview
  reviews : List ReviewsRow

namespace FileRows

/-- Each line can be read, and so can each picked review. -/
structure ReadFrom (rows : FileRows) (files : Files)
    (distinctOn : DistinctOn TempReview.reviewId) : Prop where
  customers : readLines CustomersLine.row files.customers = .ok rows.customers
  sellers : readLines SellersLine.row files.sellers = .ok rows.sellers
  products : readLines ProductsLine.row files.products = .ok rows.products
  orders : readLines OrdersLine.row files.orders = .ok rows.orders
  orderItems : readNumberedLines OrderItemsLine.row files.orderItems = .ok rows.orderItems
  payments : readNumberedLines PaymentsLine.row files.payments = .ok rows.payments
  tempReviews : readLines ReviewsLine.row files.reviews = .ok rows.tempReviews
  reviews : (distinctOn.pick rows.tempReviews).mapM TempReview.row = .ok rows.reviews

/-- No file repeats a key, and each reference names a row of another file. -/
structure Consistent (rows : FileRows) : Prop where
  customers : (rows.customers.map CustomersRow.customerId).Nodup
  sellers : (rows.sellers.map SellersRow.sellerId).Nodup
  products : (rows.products.map ProductsRow.productId).Nodup
  orders : (rows.orders.map OrdersRow.orderId).Nodup
  ordersCustomer : ∀ row ∈ rows.orders, ∀ id ∈ row.customerId,
    ∃ customer ∈ rows.customers, customer.customerId = id
  orderItemsOrder : ∀ row ∈ rows.orderItems, ∀ id ∈ row.item.orderId,
    ∃ order ∈ rows.orders, order.orderId = id
  orderItemsProduct : ∀ row ∈ rows.orderItems, ∀ id ∈ row.item.productId,
    ∃ product ∈ rows.products, product.productId = id
  orderItemsSeller : ∀ row ∈ rows.orderItems, ∀ id ∈ row.sellerId,
    ∃ seller ∈ rows.sellers, seller.sellerId = id
  paymentsOrder : ∀ row ∈ rows.payments, ∀ id ∈ row.orderId,
    ∃ order ∈ rows.orders, order.orderId = id
  reviewsOrder : ∀ row ∈ rows.reviews, ∀ id ∈ row.orderId,
    ∃ order ∈ rows.orders, order.orderId = id

/-- The tables hold the rows of the files in their order. -/
structure Stored (rows : FileRows) (loading : Loading) : Prop where
  customers : loading.database.customers.rows = rows.customers
  sellers : loading.sellers.rows = rows.sellers
  products : loading.database.products.rows = rows.products
  orders : loading.database.orders.rows = rows.orders
  orderItems : loading.database.orderItems.rows = rows.orderItems.map ItemWithSeller.item
  payments : loading.database.payments.rows = rows.payments
  tempReviews : loading.tempReviews = rows.tempReviews
  reviews : loading.database.reviews.rows = rows.reviews

variable {rows : FileRows} {files : Files} {distinctOn : DistinctOn TempReview.reviewId}

theorem ReadFrom.orderItemIds (read : rows.ReadFrom files distinctOn) :
    ((rows.orderItems.map ItemWithSeller.item).map OrderItemsRow.id).Nodup := by
  rw [List.map_map]
  apply nodup_of_numbered OrderItemsLine.row (fun row => row.item.id) _ _ _ read.orderItems
  intro fields id stored isRow
  simp only [OrderItemsLine.row, bind_eq_ok_iff, pure_eq_ok_iff] at isRow
  obtain ⟨_, -, _, -, _, -, rfl⟩ := isRow
  rfl

theorem ReadFrom.paymentIds (read : rows.ReadFrom files distinctOn) :
    (rows.payments.map PaymentsRow.id).Nodup := by
  apply nodup_of_numbered PaymentsLine.row PaymentsRow.id _ _ _ read.payments
  intro fields id stored isRow
  simp only [PaymentsLine.row, bind_eq_ok_iff, pure_eq_ok_iff] at isRow
  obtain ⟨_, -, _, -, rfl⟩ := isRow
  rfl

/-- A stored review has the id of its picked row. -/
theorem ReadFrom.reviewNames (read : rows.ReadFrom files distinctOn) :
    rows.reviews.map (fun row => some row.reviewId) =
      (distinctOn.pick rows.tempReviews).map TempReview.reviewId := by
  apply map_of_mapM TempReview.row (fun row => some row.reviewId) TempReview.reviewId _ _ _
    read.reviews
  intro review row isRow
  unfold TempReview.row at isRow
  split at isRow
  · cases isRow
  · next id named =>
      cases isRow
      exact named

theorem ReadFrom.reviewIds (read : rows.ReadFrom files distinctOn) :
    (rows.reviews.map ReviewsRow.reviewId).Nodup := by
  have distinct := distinctOn.nodup_keys rows.tempReviews
  rw [← read.reviewNames] at distinct
  have named : rows.reviews.map (fun row => some row.reviewId) =
      (rows.reviews.map ReviewsRow.reviewId).map some := by
    rw [List.map_map]
    rfl
  rw [named] at distinct
  exact distinct.of_map

/-- Each line of the reviews file has one stored review with its id. -/
theorem ReadFrom.exists_review (read : rows.ReadFrom files distinctOn) (review : TempReview)
    (member : review ∈ rows.tempReviews) :
    ∃ row ∈ rows.reviews, review.reviewId = some row.reviewId := by
  obtain ⟨picked, inside, same⟩ := distinctOn.exists_pick rows.tempReviews review member
  have listed : picked.reviewId ∈ rows.reviews.map fun row => some row.reviewId := by
    rw [read.reviewNames]
    exact List.mem_map_of_mem inside
  obtain ⟨row, stored, named⟩ := List.mem_map.mp listed
  exact ⟨row, stored, same.symm.trans named.symm⟩

end FileRows

section Script
variable (files : Files) (distinctOn : DistinctOn TempReview.reviewId)

theorem references_rows_iff {Row Key : Type} [DecidableEq Key] {keyOf : Row → Key}
    {table : KeyedTable keyOf} {rows : List Row} (stored : table.rows = rows)
    (reference : Option Key) : References reference table ↔
      ∀ key ∈ reference, ∃ row ∈ rows, keyOf row = key := by
  rw [← stored]
  exact references_iff reference table

theorem freshReviews_empty (rows : List ReviewsRow) :
    freshReviews (KeyedTable.empty ReviewsRow.reviewId) rows = rows :=
  List.filter_eq_self.mpr fun _ _ => rfl

/-- The script succeeds exactly when its files can be read and are consistent. -/
theorem script_ok_iff (final : Loading) :
    (statements files distinctOn).foldlM (fun state statement => statement state) Loading.start =
        .ok final ↔
      ∃ rows : FileRows, rows.ReadFrom files distinctOn ∧ rows.Consistent ∧ rows.Stored final := by
  simp only [statements, List.foldlM_cons, List.foldlM_nil, bind_eq_ok_iff, pure_eq_ok_iff,
    copyCustomers_eq_ok_iff, copySellers_eq_ok_iff, copyProducts_eq_ok_iff, copyOrders_eq_ok_iff,
    copyOrderItems_eq_ok_iff, copyPayments_eq_ok_iff, copyTempReviews_eq_ok_iff,
    insertReviews_eq_ok_iff]
  constructor
  · rintro ⟨_, ⟨customers, readCustomers, customersTable, ⟨customerKeys, customersStored⟩, rfl⟩,
      _, ⟨sellers, readSellers, sellersTable, ⟨sellerKeys, sellersStored⟩, rfl⟩,
      _, ⟨products, readProducts, productsTable, ⟨productKeys, productsStored⟩, rfl⟩,
      _, ⟨orders, readOrders, ordersTable, ⟨orderKeys, ordersStored⟩, customer, rfl⟩,
      _, ⟨items, readItems, itemsTable, ⟨-, itemsStored⟩, order, product, seller, rfl⟩,
      _, ⟨payments, readPayments, paymentsTable, ⟨-, paymentsStored⟩, paid, rfl⟩,
      _, ⟨temp, readTemp, rfl⟩,
      _, ⟨reviews, readReviews, reviewsTable, ⟨-, reviewsStored⟩, reviewed, rfl⟩, rfl⟩
    have reviewsFresh : reviewsTable.rows = freshReviews (KeyedTable.empty _) reviews :=
      reviewsStored
    have reviewsKnown : ∀ row ∈ freshReviews (KeyedTable.empty _) reviews,
      References row.orderId ordersTable := reviewed
    rw [freshReviews_empty] at reviewsFresh reviewsKnown
    refine ⟨⟨customers, sellers, products, orders, items, payments, temp, reviews⟩, ?_, ?_, ?_⟩
    · exact ⟨readCustomers, readSellers, readProducts, readOrders, readItems, readPayments,
        readTemp, readReviews⟩
    · constructor
      case customers => exact customerKeys
      case sellers => exact sellerKeys
      case products => exact productKeys
      case orders => exact orderKeys
      case ordersCustomer =>
        exact fun row member => (references_rows_iff customersStored _).mp (customer row member)
      case orderItemsOrder =>
        exact fun row member => (references_rows_iff ordersStored _).mp (order row member)
      case orderItemsProduct =>
        exact fun row member => (references_rows_iff productsStored _).mp (product row member)
      case orderItemsSeller =>
        exact fun row member => (references_rows_iff sellersStored _).mp (seller row member)
      case paymentsOrder =>
        exact fun row member => (references_rows_iff ordersStored _).mp (paid row member)
      case reviewsOrder =>
        exact fun row member => (references_rows_iff ordersStored _).mp (reviewsKnown row member)
    · exact ⟨customersStored, sellersStored, productsStored, ordersStored, itemsStored,
        paymentsStored, rfl, reviewsFresh⟩
  · rintro ⟨rows, read, consistent, stored⟩
    have fresh := freshReviews_empty rows.reviews
    refine ⟨_, ⟨rows.customers, read.customers, final.database.customers,
        ⟨consistent.customers, stored.customers⟩, rfl⟩,
      _, ⟨rows.sellers, read.sellers, final.sellers, ⟨consistent.sellers, stored.sellers⟩, rfl⟩,
      _, ⟨rows.products, read.products, final.database.products,
        ⟨consistent.products, stored.products⟩, rfl⟩,
      _, ⟨rows.orders, read.orders, final.database.orders, ⟨consistent.orders, stored.orders⟩,
        fun row member => ?_, rfl⟩,
      _, ⟨rows.orderItems, read.orderItems, final.database.orderItems,
        ⟨read.orderItemIds, stored.orderItems⟩, fun row member => ?_, fun row member => ?_,
        fun row member => ?_, rfl⟩,
      _, ⟨rows.payments, read.payments, final.database.payments,
        ⟨read.paymentIds, stored.payments⟩, fun row member => ?_, rfl⟩,
      _, ⟨rows.tempReviews, read.tempReviews, rfl⟩,
      _, ⟨rows.reviews, read.reviews, final.database.reviews, ⟨?_, ?_⟩, fun row member => ?_, rfl⟩,
      ?_⟩
    · exact (references_rows_iff stored.customers _).mpr (consistent.ordersCustomer row member)
    · exact (references_rows_iff stored.orders _).mpr (consistent.orderItemsOrder row member)
    · exact (references_rows_iff stored.products _).mpr (consistent.orderItemsProduct row member)
    · exact (references_rows_iff stored.sellers _).mpr (consistent.orderItemsSeller row member)
    · exact (references_rows_iff stored.orders _).mpr (consistent.paymentsOrder row member)
    · change ((freshReviews (KeyedTable.empty _) rows.reviews).map ReviewsRow.reviewId).Nodup
      rw [fresh]
      exact read.reviewIds
    · exact stored.reviews.trans fresh.symm
    · have known : row ∈ freshReviews (KeyedTable.empty _) rows.reviews := member
      rw [fresh] at known
      exact (references_rows_iff stored.orders _).mpr (consistent.reviewsOrder row known)
    · obtain ⟨database, sellers, temp⟩ := final
      have same : temp = rows.tempReviews := stored.tempReviews
      rw [same]
      rfl

/-- The database that holds readable and consistent rows. -/
def FileRows.loading {rows : FileRows} {files : Files}
    {distinctOn : DistinctOn TempReview.reviewId} (read : rows.ReadFrom files distinctOn)
    (consistent : rows.Consistent) : Loading where
  database := {
    orders := ⟨rows.orders, consistent.orders⟩
    customers := ⟨rows.customers, consistent.customers⟩
    orderItems := ⟨rows.orderItems.map ItemWithSeller.item, read.orderItemIds⟩
    payments := ⟨rows.payments, read.paymentIds⟩
    reviews := ⟨rows.reviews, read.reviewIds⟩
    products := ⟨rows.products, consistent.products⟩ }
  sellers := ⟨rows.sellers, consistent.sellers⟩
  tempReviews := rows.tempReviews

/-- Readable and consistent files are loaded without a fault. -/
theorem loadSampleData_eq (onErrorStop : Bool) {rows : FileRows}
    (read : rows.ReadFrom files distinctOn) (consistent : rows.Consistent) :
    loadSampleData onErrorStop files distinctOn = (FileRows.loading read consistent, []) := by
  rw [loadSampleData, runScript_eq_iff, script_ok_iff]
  exact ⟨rows, read, consistent, rfl, rfl, rfl, rfl, rfl, rfl, rfl, rfl⟩

/-- Whatever the files hold, whichever of its reviews each id gets and whether or not a fault ends
the script, the foreign keys hold; there is no fault exactly when the lines can be read and their
rows are consistent, and then the tables hold these rows and one review for each review id. -/
theorem sample_data_loads (onErrorStop : Bool) :
    (loadSampleData onErrorStop files distinctOn).1.database.ForeignKeys ∧
      ((loadSampleData onErrorStop files distinctOn).2 = [] ↔
        ∃ rows : FileRows, rows.ReadFrom files distinctOn ∧ rows.Consistent) ∧
      ∀ rows : FileRows, rows.ReadFrom files distinctOn → rows.Consistent →
        rows.Stored (loadSampleData onErrorStop files distinctOn).1 ∧
          ∀ review ∈ rows.tempReviews,
            ∃ row ∈ (loadSampleData onErrorStop files distinctOn).1.database.reviews.rows,
              review.reviewId = some row.reviewId := by
  refine ⟨?_, ⟨?_, ?_⟩, ?_⟩
  · exact runScript_keeps (fun loading : Loading => loading.database.ForeignKeys) onErrorStop _
      (statement_keeps files distinctOn) Loading.start foreignKeys_empty
  · intro faultless
    have done : loadSampleData onErrorStop files distinctOn =
        ((loadSampleData onErrorStop files distinctOn).1, []) := Prod.ext rfl faultless
    rw [loadSampleData, runScript_eq_iff, script_ok_iff] at done
    obtain ⟨rows, read, consistent, -⟩ := done
    exact ⟨rows, read, consistent⟩
  · rintro ⟨rows, read, consistent⟩
    rw [loadSampleData_eq files distinctOn onErrorStop read consistent]
  · intro rows read consistent
    rw [loadSampleData_eq files distinctOn onErrorStop read consistent]
    exact ⟨⟨rfl, rfl, rfl, rfl, rfl, rfl, rfl, rfl⟩, read.exists_review⟩

end Script

section Example

/-- Two lines of one review, and an order with two items of one product. -/
def smallFiles : Files where
  customers := [.ok ⟨some "c1", some "u1", some "Lima", some "SP"⟩]
  sellers := [.ok ⟨some "s1"⟩]
  products := [.ok ⟨some "p1", none⟩]
  orders := [.ok ⟨some "o1", some "c1", some "shipped", some 0, none, none⟩]
  orderItems := [.ok ⟨some "o1", some "p1", some "s1", some 5, some 1⟩,
    .ok ⟨some "o1", some "p1", some "s1", some 5, some 1⟩]
  payments := [.ok ⟨some "o1", some "voucher", some 12⟩]
  reviews := [.ok ⟨some "r1", some "o1", some 4⟩, .ok ⟨some "r1", some "o1", some 5⟩]

example : (loadSampleData true smallFiles (DistinctOn.last _)).2 = [] ∧
    (loadSampleData true smallFiles (DistinctOn.last _)).1.database.reviews.rows.map
      ReviewsRow.reviewScore = [some 5] := by decide +kernel

/-- Without its product file the script faults at the items, and the orders stay. -/
example : (loadSampleData true { smallFiles with products := [] } (DistinctOn.last _)).2 =
      [.foreignKeyViolation "fk_order_items_product"] ∧
    (loadSampleData true { smallFiles with products := [] }
      (DistinctOn.last _)).1.database.orders.rows.length = 1 := by decide +kernel

end Example

end SampleData

end OdsPipeline
