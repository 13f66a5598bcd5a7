import OdsPipeline.Library.Survival
import OdsPipeline.Library.Tally
import OdsPipeline.Proof.Feeds
import OdsPipeline.Proof.Resubmission
import OdsPipeline.Proof.Routing
import OdsPipeline.Proof.StoredRecords

namespace OdsPipeline
open Library SqlQueries Postgres OdsETLJob

/-- A statement adds a row to its table. -/
def Postgres.Statement.Inserts : Statement → Prop
  | .orders own => ∃ row, own = .insert row
  | .orderItems own => ∃ row, own = .insert row
  | .products own => ∃ row, own = .insert row
  | .reviews own => ∃ row, own = .insert row
  | .payments own => ∃ row, own = .insert row
  | .customers own => ∃ row, own = .insert row

namespace Feed

section Errors
variable {Row Key Source Data Columns CleanKey : Type} [DecidableEq Key] [DecidableEq CleanKey]
  {feed : Feed Row Key Source Data Columns CleanKey (CleanKey × Timestamp)}

/-- The error table of a feed has the ids of the clean table and the time in its key. -/
structure Errors (feed : Feed Row Key Source Data Columns CleanKey (CleanKey × Timestamp)) where
  error : Jobs → KeyedTable feed.processor.error.primaryKey
  mainEmpty : error main = KeyedTable.empty feed.processor.error.primaryKey
  processed : ∀ jobs arrived change, feed.record arrived = some change →
    error (jobs.process arrived.1 arrived.2) =
      feed.processor.error.deliver true (error jobs) [change]
  skipped : ∀ jobs arrived, feed.record arrived = none →
    error (jobs.process arrived.1 arrived.2) = error jobs
  complementary : feed.processor.Complementary
  errorKey : ∀ now row, feed.processor.error.primaryKey (feed.processor.error.select now row) =
    (feed.dataKey (feed.cleanSelect row), now)
  report : ∀ now row, (feed.processor.error.select now row).toErrorReport =
    (feed.processor.error.select 0 row).toErrorReport
  inserted : ∀ next own, next.Inserts → feed.statement next = some own → ∃ row, own = .insert row

namespace Errors
variable (errors : feed.Errors)

/-- The source rows that neither table of the job gets. -/
def unseen (_ : feed.Errors) (database : Database) : List Row :=
  (feed.processor.clean.comap feed.toSource).unseen (feed.source database).rows

/-- The clean table holds the valid rows, the error table reports the rejected rows, and no row is
missing or counted twice. -/
structure Accounts (database : Database) (jobs : Jobs) : Prop where
  holds : feed.Holds database jobs
  reports : ((errors.error jobs).rows.map ErrorSink.toErrorReport).Perm
    (feed.processor.rejections feed.toSource (feed.source database).rows)
  balance : (feed.clean jobs).rows.length + (errors.error jobs).rows.length +
    (errors.unseen database).length = (feed.source database).rows.length

/-- The ids and the times of the records that the error statement selects. -/
def rejectedKeys (_ : feed.Errors) (records : List (Timestamp × OdsETLJob.Record)) :
    List (CleanKey × Timestamp) :=
  ((records.filterMap feed.record).filter fun record =>
    feed.processor.error.Selects record.2.row).map fun record =>
      (feed.dataKey (feed.cleanSelect record.2.row), record.1)

/-- Valid rows have different ids, and so have the rows that are rejected at one time. -/
structure Apart (database : Database) (records : List (Timestamp × OdsETLJob.Record)) :
    Prop where
  clean : (((feed.source database).rows.filter feed.passes).map feed.cleanKey).Nodup
  error : (errors.rejectedKeys records).Nodup

/-- The error table follows its own records. -/
theorem error_run (records : List (Timestamp × OdsETLJob.Record)) :
    errors.error (main.run records) =
      feed.processor.error.deliver true (KeyedTable.empty _) (records.filterMap feed.record) := by
  rw [← errors.mainEmpty]
  exact feed.processor.error.foldl_own true errors.error
    (fun jobs record => jobs.process record.1 record.2) feed.record errors.processed errors.skipped
    main records

/-- Both tables hold only rows that the targets store when each record can be stored. -/
theorem hold_run (own : feed.ReadsOwn) {targets : Targets Data Columns}
    (stores : ∀ now change, (feed.tag change).Stored now →
      targets.Store feed.processor now change.row)
    (records : List (Timestamp × OdsETLJob.Record))
    (stored : ∀ arrived ∈ records, feed.record arrived ≠ none → arrived.2.Stored arrived.1) :
    targets.Hold (⟨feed.clean (main.run records), errors.error (main.run records)⟩ :
      JobTables feed.processor) := by
  have store : ∀ change ∈ records.filterMap feed.record,
      targets.Store feed.processor change.1 change.2.row := by
    intro change member
    obtain ⟨arrived, inside, found⟩ := List.mem_filterMap.mp member
    have held := stored arrived inside (by simp [found])
    rw [own arrived change found] at held
    exact stores change.1 change.2 held
  constructor
  case clean =>
    intro row member
    rw [feed.clean_run] at member
    obtain ⟨change, inside, writes, rfl⟩ := InsertSelect.mem_deliver _ _ _ _ member
    exact (store change inside).1 writes.2.1
  case error =>
    intro row member
    rw [errors.error_run] at member
    obtain ⟨change, inside, writes, rfl⟩ := InsertSelect.mem_deliver _ _ _ _ member
    exact (store change inside).2 writes.2.1

/-- The statements of one table only insert when all statements do. -/
theorem exists_inserts (errors : feed.Errors) (history : List Statement)
    (inserts : ∀ next ∈ history, next.Inserts) :
    ∃ rows : List Row, feed.own history = rows.map .insert := by
  induction history with
  | nil => exact ⟨[], rfl⟩
  | cons next rest ih =>
      obtain ⟨rows, later⟩ := ih fun other member => inserts other (List.mem_cons_of_mem _ member)
      have first := inserts next List.mem_cons_self
      cases found : feed.statement next with
      | none => exact ⟨rows, by rw [own, List.filterMap_cons_none found]; exact later⟩
      | some own =>
          obtain ⟨row, rfl⟩ := errors.inserted next own first found
          refine ⟨row :: rows, ?_⟩
          rw [Feed.own, List.filterMap_cons_some found, List.map_cons]
          exact congrArg _ later

/-- The arrived records are the given rows, inserted at the given times. -/
def Loads (_ : feed.Errors) (records : List (Timestamp × OdsETLJob.Record))
    (timed : List (Timestamp × Row)) : Prop :=
  records.filterMap feed.record =
    timed.map fun record => (record.1, ⟨.insert, feed.toSource record.2⟩)

/-- A caught-up job has read each source row once as an inserted row. -/
theorem exists_loads (history : List Statement) (inserts : ∀ next ∈ history, next.Inserts)
    (records : List (Timestamp × OdsETLJob.Record))
    (read : feed.arrived records = feed.changelog history) :
    ∃ timed, errors.Loads records timed ∧
      timed.map Prod.snd = (feed.source (Database.empty.commitAll history)).rows := by
  obtain ⟨rows, own⟩ := errors.exists_inserts history inserts
  obtain ⟨added, log, stored⟩ := (KeyedTable.empty feed.keyOf).changelog_inserts rows
  rw [changelog, own, log, List.map_map] at read
  obtain ⟨timed, same, projected⟩ := exists_of_projected feed.toSource (records.filterMap feed.record)
    (added.map (⟨.insert, ·⟩)) (by rw [List.map_map]; exact read)
  refine ⟨timed.map fun record => (record.1, record.2.row), ?_, ?_⟩
  · rw [Loads, projected, List.map_map]
    apply List.map_congr_left
    intro record member
    have inserted : record.2 ∈ added.map (⟨.insert, ·⟩) := by
      rw [← same]
      exact List.mem_map_of_mem member
    obtain ⟨row, -, isRow⟩ := List.mem_map.mp inserted
    change (record.1, record.2.map feed.toSource) =
      (record.1, ⟨.insert, feed.toSource record.2.row⟩)
    rw [← isRow]
    rfl
  · rw [source_commitAll, own, stored, KeyedTable.empty_rows, List.nil_append, List.map_map]
    have rowsOf := congrArg (List.map Change.row) same
    rw [List.map_map, List.map_map] at rowsOf
    exact rowsOf.trans (List.map_id _)

variable {errors} {records : List (Timestamp × OdsETLJob.Record)} {timed : List (Timestamp × Row)}

theorem Loads.clean (loads : errors.Loads records timed) : feed.clean (main.run records) =
    (feed.processor.clean.comap feed.toSource).load (KeyedTable.empty _) timed := by
  have projected := feed.processor.clean.deliver_comap feed.toSource true (KeyedTable.empty _)
    (timed.map fun record => (record.1, ⟨.insert, record.2⟩))
  rw [List.map_map] at projected
  rw [clean_run, loads]
  exact projected.symm

theorem Loads.error (loads : errors.Loads records timed) : errors.error (main.run records) =
    (feed.processor.error.comap feed.toSource).load (KeyedTable.empty _) timed := by
  have projected := feed.processor.error.deliver_comap feed.toSource true (KeyedTable.empty _)
    (timed.map fun record => (record.1, ⟨.insert, record.2⟩))
  rw [List.map_map] at projected
  rw [error_run, loads]
  exact projected.symm

/-- The clean statement writes the clean keys of the valid rows. -/
theorem Loads.cleanKeys (_ : errors.Loads records timed) :
    ((feed.processor.clean.comap feed.toSource).written timed).map
        feed.processor.clean.primaryKey =
      ((timed.map Prod.snd).filter feed.passes).map feed.cleanKey := by
  apply (feed.processor.clean.comap feed.toSource).map_written
  intro now row
  have key := feed.keeps.sameKey ((feed.processor.clean.comap feed.toSource).select now row)
  rw [feed.keeps.columns] at key
  exact key.symm

/-- The error statement writes the ids and the times of the rejected records. -/
theorem Loads.errorKeys (loads : errors.Loads records timed) :
    ((feed.processor.error.comap feed.toSource).written timed).map
      feed.processor.error.primaryKey = errors.rejectedKeys records := by
  rw [rejectedKeys, loads, List.filter_map, List.map_map, InsertSelect.written, List.map_map]
  exact List.map_congr_left fun record _ => errors.errorKey record.1 (feed.toSource record.2)

/-- A job accounts for all rows of an insert-only history exactly when no ids collide. -/
theorem accounts_iff (errors : feed.Errors) (history : List Statement)
    (inserts : ∀ next ∈ history, next.Inserts) (records : List (Timestamp × OdsETLJob.Record))
    (read : feed.arrived records = feed.changelog history) :
    errors.Accounts (Database.empty.commitAll history) (main.run records) ↔
      errors.Apart (Database.empty.commitAll history) records := by
  obtain ⟨timed, loads, rows⟩ := errors.exists_loads history inserts records read
  have counts := (feed.processor.clean.comap feed.toSource).length_loads_eq_iff
    (feed.processor.error.comap feed.toSource)
    (fun row => errors.complementary (feed.toSource row)) timed
  have length := timed.length_map Prod.snd
  rw [← loads.clean, ← loads.error, rows] at counts
  rw [rows] at length
  rw [← length] at counts
  constructor
  · intro accounts
    obtain ⟨cleanApart, errorApart⟩ := counts.mp accounts.balance
    constructor
    · rw [← rows, ← loads.cleanKeys]
      exact cleanApart
    · rw [← loads.errorKeys]
      exact errorApart
  · intro apart
    have cleanApart := apart.clean
    have errorApart := apart.error
    rw [← rows, ← loads.cleanKeys] at cleanApart
    rw [← loads.errorKeys] at errorApart
    have valid := (feed.processor.clean.comap feed.toSource).map_load_of_distinct CleanSink.data _
      feed.keeps.columns timed cleanApart
    have rejected := (feed.processor.error.comap feed.toSource).map_load_of_distinct
      ErrorSink.toErrorReport _ (fun now row => errors.report now (feed.toSource row)) timed
      errorApart
    rw [← loads.clean, rows] at valid
    rw [← loads.error, rows] at rejected
    constructor
    · exact List.Perm.of_eq valid
    · exact List.Perm.of_eq rejected
    · exact counts.mpr ⟨cleanApart, errorApart⟩

/-- A clean key that is the primary key of the source never collides. -/
theorem apart_of_key (errors : feed.Errors) (embed : Key → CleanKey)
    (injective : Function.Injective embed)
    (sameKey : ∀ row, feed.cleanKey row = embed (feed.keyOf row)) (history : List Statement)
    (inserts : ∀ next ∈ history, next.Inserts) (records : List (Timestamp × OdsETLJob.Record))
    (read : feed.arrived records = feed.changelog history) :
    errors.Apart (Database.empty.commitAll history) records := by
  obtain ⟨timed, loads, rows⟩ := errors.exists_loads history inserts records read
  have keys := (feed.source (Database.empty.commitAll history)).distinct.map injective
  have named : embed ∘ feed.keyOf = feed.cleanKey := (funext sameKey).symm
  rw [List.map_map, named] at keys
  constructor
  · exact (List.filter_sublist.map _).nodup keys
  · rw [← rows, List.map_map] at keys
    rw [rejectedKeys, loads, List.filter_map, List.map_map]
    apply List.Nodup.of_map Prod.fst
    rw [List.map_map]
    exact (List.filter_sublist.map _).nodup keys

end Errors

end Errors

end Feed

section Tables

def ordersErrors : ordersFeed.Errors where
  error jobs := jobs.orders.error
  mainEmpty := rfl
  processed := by rintro jobs ⟨now, next⟩ change found; cases next <;> cases found; rfl
  skipped := by rintro jobs ⟨now, next⟩ other; cases next <;> first | rfl | cases other
  complementary := orders_complementary
  errorKey _ _ := rfl
  report _ _ := rfl
  inserted next own inserts found := by cases next <;> cases found; exact inserts

def orderItemsErrors : orderItemsFeed.Errors where
  error jobs := jobs.orderItems.error
  mainEmpty := rfl
  processed := by rintro jobs ⟨now, next⟩ change found; cases next <;> cases found; rfl
  skipped := by rintro jobs ⟨now, next⟩ other; cases next <;> first | rfl | cases other
  complementary := orderItems_complementary
  errorKey _ _ := rfl
  report _ _ := rfl
  inserted next own inserts found := by cases next <;> cases found; exact inserts

def productsErrors : productsFeed.Errors where
  error jobs := jobs.products.error
  mainEmpty := rfl
  processed := by rintro jobs ⟨now, next⟩ change found; cases next <;> cases found; rfl
  skipped := by rintro jobs ⟨now, next⟩ other; cases next <;> first | rfl | cases other
  complementary := products_complementary
  errorKey _ _ := rfl
  report _ _ := rfl
  inserted next own inserts found := by cases next <;> cases found; exact inserts

def reviewsErrors : reviewsFeed.Errors where
  error jobs := jobs.reviews.error
  mainEmpty := rfl
  processed := by rintro jobs ⟨now, next⟩ change found; cases next <;> cases found; rfl
  skipped := by rintro jobs ⟨now, next⟩ other; cases next <;> first | rfl | cases other
  complementary := reviews_complementary
  errorKey _ _ := rfl
  report _ _ := rfl
  inserted next own inserts found := by cases next <;> cases found; exact inserts

def paymentsErrors : paymentsFeed.Errors where
  error jobs := jobs.payments.error
  mainEmpty := rfl
  processed := by rintro jobs ⟨now, next⟩ change found; cases next <;> cases found; rfl
  skipped := by rintro jobs ⟨now, next⟩ other; cases next <;> first | rfl | cases other
  complementary := payments_complementary
  errorKey _ _ := rfl
  report _ _ := rfl
  inserted next own inserts found := by cases next <;> cases found; exact inserts

def customersErrors : customersFeed.Errors where
  error jobs := jobs.customers.error
  mainEmpty := rfl
  processed := by rintro jobs ⟨now, next⟩ change found; cases next <;> cases found; rfl
  skipped := by rintro jobs ⟨now, next⟩ other; cases next <;> first | rfl | cases other
  complementary := customers_complementary
  errorKey _ _ := rfl
  report _ _ := rfl
  inserted next own inserts found := by cases next <;> cases found; exact inserts

/-- The jobs leave only rows that the targets store when each record can be stored. -/
theorem targetsHold_run (records : List (Timestamp × OdsETLJob.Record))
    (stored : ∀ arrived ∈ records, arrived.2.Stored arrived.1) :
    (main.run records).TargetsHold where
  orders := ordersErrors.hold_run ordersFeed_readsOwn (fun _ _ => id) records
    fun arrived member _ => stored arrived member
  orderItems := orderItemsErrors.hold_run orderItemsFeed_readsOwn (fun _ _ => id) records
    fun arrived member _ => stored arrived member
  products := productsErrors.hold_run productsFeed_readsOwn (fun _ _ => id) records
    fun arrived member _ => stored arrived member
  reviews := reviewsErrors.hold_run reviewsFeed_readsOwn (fun _ _ => id) records
    fun arrived member _ => stored arrived member
  payments := paymentsErrors.hold_run paymentsFeed_readsOwn (fun _ _ => id) records
    fun arrived member _ => stored arrived member
  customers := customersErrors.hold_run customersFeed_readsOwn (fun _ _ => id) records
    fun arrived member _ => stored arrived member

end Tables

/-- All six jobs have read the whole changelogs of a history that only inserts, and their targets
store all that they write. -/
structure InsertRun where
  history : List Statement
  inserts : ∀ next ∈ history, next.Inserts
  records : List (Timestamp × OdsETLJob.Record)
  orders : ordersFeed.arrived records = ordersFeed.changelog history
  orderItems : orderItemsFeed.arrived records = orderItemsFeed.changelog history
  products : productsFeed.arrived records = productsFeed.changelog history
  reviews : reviewsFeed.arrived records = reviewsFeed.changelog history
  payments : paymentsFeed.arrived records = paymentsFeed.changelog history
  customers : customersFeed.arrived records = customersFeed.changelog history
  stored : ∀ arrived ∈ records, arrived.2.Stored arrived.1

namespace InsertRun
variable (run : InsertRun)

def database : Database := Database.empty.commitAll run.history

def jobs : Jobs := main.run run.records

theorem orders_accounted : ordersErrors.Accounts run.database run.jobs := by
  apply (ordersErrors.accounts_iff run.history run.inserts run.records run.orders).mpr
  exact ordersErrors.apart_of_key embedKey embedKey_injective (fun _ => rfl) run.history
    run.inserts run.records run.orders

theorem products_accounted : productsErrors.Accounts run.database run.jobs := by
  apply (productsErrors.accounts_iff run.history run.inserts run.records run.products).mpr
  exact productsErrors.apart_of_key embedKey embedKey_injective (fun _ => rfl) run.history
    run.inserts run.records run.products

theorem customers_accounted : customersErrors.Accounts run.database run.jobs := by
  apply (customersErrors.accounts_iff run.history run.inserts run.records run.customers).mpr
  exact customersErrors.apart_of_key embedKey embedKey_injective (fun _ => rfl) run.history
    run.inserts run.records run.customers

/-- In every arrival order and at all processing times, the orders, products and customers of an
insert-only history whose rows can be stored are all accounted for, and so are the other tables
exactly when no ids collide. -/
theorem rows_accounted : run.jobs.TargetsHold ∧
    ordersErrors.Accounts run.database run.jobs ∧
      productsErrors.Accounts run.database run.jobs ∧
      customersErrors.Accounts run.database run.jobs ∧
      (orderItemsErrors.Accounts run.database run.jobs ↔
        orderItemsErrors.Apart run.database run.records) ∧
      (reviewsErrors.Accounts run.database run.jobs ↔
        reviewsErrors.Apart run.database run.records) ∧
      (paymentsErrors.Accounts run.database run.jobs ↔
        paymentsErrors.Apart run.database run.records) := by
  refine ⟨targetsHold_run run.records run.stored, run.orders_accounted, run.products_accounted,
    run.customers_accounted, ?_, ?_, ?_⟩
  · exact orderItemsErrors.accounts_iff run.history run.inserts run.records run.orderItems
  · exact reviewsErrors.accounts_iff run.history run.inserts run.records run.reviews
  · exact paymentsErrors.accounts_iff run.history run.inserts run.records run.payments

end InsertRun

section Example

/-- An order without a customer is processed after a valid one, at an earlier time. -/
def twoOrders : InsertRun where
  history := [
    .orders (.insert ⟨orderOne, some customerOne, some shipped, some 0, none, none, some false⟩),
    .orders (.insert ⟨⟨"o2", by decide⟩, none, some shipped, some 0, none, none, some false⟩)]
  inserts := by
    intro next member
    rcases List.mem_pair.mp member with rfl | rfl
    · exact ⟨_, rfl⟩
    · exact ⟨_, rfl⟩
  records := [
    (7, .orders ⟨.insert, ⟨⟨some "o1", some "c1", some "shipped", some 0, none, none⟩, some false⟩⟩),
    (3, .orders ⟨.insert, ⟨⟨some "o2", none, some "shipped", some 0, none, none⟩, some false⟩⟩)]
  orders := rfl
  orderItems := rfl
  products := rfl
  reviews := rfl
  payments := rfl
  customers := rfl
  stored := by decide +kernel

example : twoOrders.jobs.orders.clean.rows.length = 1 ∧
    (twoOrders.jobs.orders.error.rows.map fun row => row.errorMessage) =
      ["Invalid customer ID"] := by decide +kernel

theorem two_orders_accounted : ordersErrors.Accounts twoOrders.database twoOrders.jobs :=
  twoOrders.rows_accounted.2.1

end Example

end OdsPipeline
