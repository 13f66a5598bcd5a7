import OdsPipeline.Construction.OdsETLJob
import OdsPipeline.Library.Survival

namespace OdsPipeline
open Library SqlQueries

section Histories
variable {Source Data Key : Type} [DecidableEq Key]

/-- The records of a clean sink in which one key is inserted, then updated, and not deleted. All its
versions pass the clean condition, and the records of other keys can stand between them. -/
structure KeyHistory (statement : InsertSelect Timestamp Source (CleanSink Data) Key) where
  records : List (Timestamp × Change Source)
  ordered : records.Pairwise fun earlier later => earlier.1 ≤ later.1
  key : Key
  first : Timestamp × Change Source
  rest : List (Timestamp × Change Source)
  touched : records.filter (fun record =>
    statement.primaryKey (statement.select record.1 record.2.row) = key) = first :: rest
  inserted : first.2.kind = .insert
  updated : ∀ record ∈ rest, record.2.kind = .updateBefore ∨ record.2.kind = .updateAfter
  accepted : ∀ record ∈ first :: rest, statement.Selects record.2.row

namespace KeyHistory
variable {statement : InsertSelect Timestamp Source (CleanSink Data) Key}
  (history : KeyHistory statement)

/-- The new versions of the key. -/
def updates : List (Timestamp × Change Source) :=
  history.rest.filter fun record => record.2.kind = .updateAfter

/-- The last accepted version of the key. -/
def last : Timestamp × Change Source := history.updates.getLastD history.first

/-- The stored row was created with the first version and updated with the last one. -/
def TimesKept : Prop :=
  ∃ row, (statement.deliver true (KeyedTable.empty _) history.records).lookup history.key = some row ∧
    row.createdAt = history.first.1 ∧ row.updatedAt = history.last.1

/-- No update of the key is processed after its insert. -/
def UpdatedAtOnce : Prop := ∀ record ∈ history.updates, record.1 = history.first.1

/-- A record of the key is one of its versions. -/
theorem mem_versions (record : Timestamp × Change Source) (member : record ∈ history.records)
    (same : statement.primaryKey (statement.select record.1 record.2.row) = history.key) :
    record ∈ history.first :: history.rest := by
  rw [← history.touched]
  exact List.mem_filter.mpr ⟨member, decide_eq_true same⟩

/-- The sink ignores -U records, so no record takes the key back. -/
theorem not_retracts (record : Timestamp × Change Source) (member : record ∈ history.records) :
    ¬ statement.Retracts true history.key record := by
  rintro ⟨deleted | ⟨-, counted⟩, -, same⟩
  · rcases List.mem_cons.mp (history.mem_versions record member same) with rfl | later
    · rw [history.inserted] at deleted
      cases deleted
    · rcases history.updated record later with kind | kind
      · rw [kind] at deleted
        cases deleted
      · rw [kind] at deleted
        cases deleted
  · cases counted

/-- The writes of the key are its insert and its new versions. -/
theorem filter_writes : (history.records.filter fun record => statement.Writes history.key record) =
    history.first :: history.updates := by
  have written : (history.records.filter fun record => statement.Writes history.key record) =
      (history.first :: history.rest).filter fun record =>
        record.2.kind = .insert ∨ record.2.kind = .updateAfter := by
    rw [← history.touched, List.filter_filter]
    apply List.filter_congr
    intro record member
    rw [← Bool.decide_and]
    apply decide_eq_decide.mpr
    constructor
    · rintro ⟨kind, -, same⟩
      exact ⟨kind, same⟩
    · rintro ⟨kind, same⟩
      exact ⟨kind, history.accepted record (history.mem_versions record member same), same⟩
  rw [written, List.filter_cons, if_pos (by simp [history.inserted]), updates]
  congr 1
  apply List.filter_congr
  intro record member
  apply decide_eq_decide.mpr
  rcases history.updated record member with kind | kind
  · simp [kind]
  · simp [kind]

/-- The sink stores the last version of the key. -/
theorem lookup_records :
    (statement.deliver true (KeyedTable.empty _) history.records).lookup history.key =
      some (statement.select history.last.1 history.last.2.row) := by
  rw [statement.lookup_deliver_last_write true history.records history.key history.not_retracts,
    filter_writes, List.getLast?_cons, last, List.getLastD_eq_getLast?]
  rfl

/-- The versions of the key follow the order of processing. -/
theorem versions_ordered :
    (history.first :: history.rest).Pairwise fun earlier later => earlier.1 ≤ later.1 := by
  rw [← history.touched]
  exact history.ordered.filter _

/-- The last version has the time of the first one exactly when all versions have it. -/
theorem last_time_eq_iff : history.last.1 = history.first.1 ↔ history.UpdatedAtOnce := by
  have versions := List.pairwise_cons.mp history.versions_ordered
  have updates : history.updates.Pairwise fun earlier later => earlier.1 ≤ later.1 :=
    versions.2.filter _
  have least : ∀ record ∈ history.updates, history.first.1 ≤ record.1 := by
    intro record member
    exact versions.1 record (List.mem_of_mem_filter member)
  unfold last UpdatedAtOnce
  rcases List.eq_nil_or_concat history.updates with none | ⟨before, final, split⟩
  · rw [none]
    simp
  · rw [List.concat_eq_append] at split
    rw [split] at updates least ⊢
    rw [List.getLastD_concat]
    constructor
    · intro same record member
      rcases List.mem_append.mp member with earlier | final'
      · have below := (List.pairwise_append.mp updates).2.2 record earlier final (by simp)
        exact le_antisymm (below.trans_eq same) (least record member)
      · rw [List.mem_singleton.mp final']
        exact same
    · intro atOnce
      exact atOnce final (by simp)

/-- The load times are right exactly when the key is not updated after its insert. -/
theorem timesKept_iff (loads : ∀ now row, (statement.select now row).createdAt = now ∧
      (statement.select now row).updatedAt = now) :
    history.TimesKept ↔ history.UpdatedAtOnce := by
  rw [← last_time_eq_iff, TimesKept, lookup_records]
  constructor
  · rintro ⟨row, stored, created, -⟩
    rw [← Option.some.inj stored, (loads _ _).1] at created
    exact created
  · intro same
    refine ⟨_, rfl, ?_, (loads _ _).2⟩
    rw [(loads _ _).1, same]

end KeyHistory

end Histories

/-- The creation time survives updates in each clean table exactly when no update of the key is
processed after its insert. -/
theorem created_at_kept_iff (orders : KeyHistory OrderProcessor.processOrdersWithSQL.clean)
    (orderItems : KeyHistory OrderItemProcessor.processOrderItemsWithSQL.clean)
    (products : KeyHistory ProductProcessor.processProductsWithSQL.clean)
    (reviews : KeyHistory ReviewProcessor.processReviewsWithSQL.clean)
    (payments : KeyHistory PaymentProcessor.processPaymentsWithSQL.clean)
    (customers : KeyHistory CustomerProcessor.processCustomersWithSQL.clean) :
    (orders.TimesKept ↔ orders.UpdatedAtOnce) ∧ (orderItems.TimesKept ↔ orderItems.UpdatedAtOnce) ∧
      (products.TimesKept ↔ products.UpdatedAtOnce) ∧ (reviews.TimesKept ↔ reviews.UpdatedAtOnce) ∧
      (payments.TimesKept ↔ payments.UpdatedAtOnce) ∧
      (customers.TimesKept ↔ customers.UpdatedAtOnce) :=
  ⟨orders.timesKept_iff fun _ _ => ⟨rfl, rfl⟩, orderItems.timesKept_iff fun _ _ => ⟨rfl, rfl⟩,
    products.timesKept_iff fun _ _ => ⟨rfl, rfl⟩, reviews.timesKept_iff fun _ _ => ⟨rfl, rfl⟩,
    payments.timesKept_iff fun _ _ => ⟨rfl, rfl⟩, customers.timesKept_iff fun _ _ => ⟨rfl, rfl⟩⟩

def pendingVersion : OrdersSource :=
  ⟨⟨some "o1", some "c1", some "pending", some 0, none, none⟩, some false⟩

def shippedVersion : OrdersSource :=
  ⟨⟨some "o1", some "c1", some "shipped", some 0, none, none⟩, some false⟩

/-- An order is inserted and updated one second later. -/
def shippedLater : KeyHistory OrderProcessor.processOrdersWithSQL.clean where
  records := [(0, ⟨.insert, pendingVersion⟩), (1000, ⟨.updateBefore, pendingVersion⟩),
    (1000, ⟨.updateAfter, shippedVersion⟩)]
  ordered := by decide
  key := some "o1"
  first := (0, ⟨.insert, pendingVersion⟩)
  rest := [(1000, ⟨.updateBefore, pendingVersion⟩), (1000, ⟨.updateAfter, shippedVersion⟩)]
  touched := by decide
  inserted := rfl
  updated := by decide
  accepted := by decide

/-- The update moves the creation time to its own time. -/
theorem shipped_later_recreated :
    ((OrderProcessor.processOrdersWithSQL.clean.deliver true (KeyedTable.empty _)
      shippedLater.records).lookup (some "o1")).map CleanSink.createdAt = some 1000 ∧
      ¬ shippedLater.TimesKept := by
  have stored : ((OrderProcessor.processOrdersWithSQL.clean.deliver true (KeyedTable.empty _)
      shippedLater.records).lookup (some "o1")).map CleanSink.createdAt = some 1000 := by decide
  constructor
  · exact stored
  · rintro ⟨row, known, created, -⟩
    change (OrderProcessor.processOrdersWithSQL.clean.deliver true (KeyedTable.empty _)
      shippedLater.records).lookup (some "o1") = some row at known
    rw [known] at stored
    have moved : row.createdAt = 1000 := Option.some.inj stored
    rw [created] at moved
    exact absurd moved (by decide)

end OdsPipeline
