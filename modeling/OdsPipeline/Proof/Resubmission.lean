import OdsPipeline.Library.Reload
import OdsPipeline.Proof.CleanMirror

namespace OdsPipeline
open Library SqlQueries Postgres

section Clean
variable {Row Source Data Columns CleanKey ErrorKey Key : Type} [DecidableEq CleanKey]
  {keyOf : Row → Key}

/-- The data columns of the clean table after some runs of the job. -/
def Processor.cleanRuns (processor : Processor Source Data Columns CleanKey ErrorKey)
    (toSource : Row → Source) (runs : List (List (Timestamp × Row))) : List Data :=
  ((processor.clean.comap toSource).load (KeyedTable.empty _) runs.flatten).rows.map CleanSink.data

/-- The clean table keeps its data however often the job runs. -/
def Processor.CleanStable (processor : Processor Source Data Columns CleanKey ErrorKey)
    (toSource : Row → Source) {source : KeyedTable keyOf} (runs : Reruns Timestamp source) : Prop :=
  ∀ count, (processor.cleanRuns toSource (runs.first :: runs.rest.take count)).Perm
    (processor.cleanRuns toSource [runs.first])

/-- Each run reads the same valid row last at each clean key. -/
def Processor.SameLastReads (processor : Processor Source Data Columns CleanKey ErrorKey)
    (toSource : Row → Source) (dataKey : Data → CleanKey) (cleanSelect : Source → Data)
    {source : KeyedTable keyOf} (runs : Reruns Timestamp source) : Prop :=
  ∀ run ∈ runs.rest, ∀ key,
    (processor.clean.comap toSource).lastRead dataKey (fun row => cleanSelect (toSource row))
        (run.map Prod.snd) key =
      (processor.clean.comap toSource).lastRead dataKey (fun row => cleanSelect (toSource row))
        (runs.first.map Prod.snd) key

variable (processor : Processor Source Data Columns CleanKey ErrorKey) (toSource : Row → Source)

theorem Processor.cleanStable_iff (dataKey : Data → CleanKey) (cleanSelect : Source → Data)
    (keeps : (processor.clean.comap toSource).KeepsData CleanSink.data dataKey
      fun row => cleanSelect (toSource row))
    {source : KeyedTable keyOf} (runs : Reruns Timestamp source) :
    processor.CleanStable toSource runs ↔
      processor.SameLastReads toSource dataKey cleanSelect runs := by
  rw [SameLastReads, ← InsertSelect.reload_perm_iff keeps runs]
  simp only [CleanStable, cleanRuns, List.flatten_singleton]

/-- A clean key that is the source key makes each reading order equal. -/
theorem Processor.cleanStable_of_sourceKey (dataKey : Data → CleanKey)
    (cleanSelect : Source → Data)
    (keeps : (processor.clean.comap toSource).KeepsData CleanSink.data dataKey
      fun row => cleanSelect (toSource row))
    (embed : Key → CleanKey) (injective : Function.Injective embed)
    (sourceKey : ∀ row, dataKey (cleanSelect (toSource row)) = embed (keyOf row))
    {source : KeyedTable keyOf} (runs : Reruns Timestamp source) :
    processor.CleanStable toSource runs := by
  rw [processor.cleanStable_iff toSource dataKey cleanSelect keeps]
  intro run member key
  have perm := (runs.reads run (List.mem_cons_of_mem _ member)).trans
    (runs.reads runs.first List.mem_cons_self).symm
  refine InsertSelect.lastRead_eq_of_perm _ dataKey _ perm ?_ key
  have distinct := source.distinct.map injective
  rw [List.map_map] at distinct
  rw [((runs.reads run (List.mem_cons_of_mem _ member)).map _).nodup_iff]
  simpa only [Function.comp_def, sourceKey] using distinct

end Clean

section Error
variable {Row Source Data Columns CleanKey ErrorKey Key : Type} [DecidableEq ErrorKey]
  {keyOf : Row → Key}

/-- The rows of the error table after some runs of the job. -/
def Processor.errorRuns (processor : Processor Source Data Columns CleanKey ErrorKey)
    (toSource : Row → Source) (runs : List (List (Timestamp × Row))) : List (ErrorSink Columns) :=
  ((processor.error.comap toSource).load (KeyedTable.empty _) runs.flatten).rows

/-- The reports of the source rows that the error statement selects. -/
def Processor.rejections (processor : Processor Source Data Columns CleanKey ErrorKey)
    (toSource : Row → Source) (rows : List Row) : List (ErrorReport Columns) :=
  (rows.filter (processor.error.comap toSource).passes).map fun row =>
    (processor.error.select 0 (toSource row)).toErrorReport

/-- Each run adds one live report for each rejected source row. -/
def Processor.ErrorsPerRun (processor : Processor Source Data Columns CleanKey ErrorKey)
    (toSource : Row → Source) {source : KeyedTable keyOf} (runs : Reruns Timestamp source) : Prop :=
  ((processor.errorRuns toSource (runs.first :: runs.rest)).map ErrorSink.toErrorReport).Perm
    (List.replicate (runs.rest.length + 1) (processor.rejections toSource source.rows)).flatten

/-- The error table holds side by side what each run writes alone. -/
def Processor.ErrorsApart (processor : Processor Source Data Columns CleanKey ErrorKey)
    (toSource : Row → Source) {source : KeyedTable keyOf} (runs : Reruns Timestamp source) : Prop :=
  processor.errorRuns toSource (runs.first :: runs.rest) =
    (runs.first :: runs.rest).flatMap fun run => processor.errorRuns toSource [run]

variable (processor : Processor Source Data Columns CleanKey ErrorKey) (toSource : Row → Source)

theorem Processor.errorsApart (timeOf : ErrorKey → Timestamp)
    (stamped : ∀ now row, timeOf (processor.error.primaryKey
      (processor.error.select now row)) = now)
    {source : KeyedTable keyOf} (runs : Reruns Timestamp source) :
    processor.ErrorsApart toSource runs := by
  have apart := runs.later.imp fun earlier old before new after => (earlier old before new after).ne
  have parts : ((processor.error.comap toSource).load (KeyedTable.empty _)
      (runs.first :: runs.rest).flatten).rows = _ :=
    InsertSelect.load_runs timeOf (fun now row => stamped now (toSource row)) _ apart
  rw [ErrorsApart, errorRuns, parts]
  simp only [errorRuns, List.flatten_singleton]

theorem perm_replicate_flatten {Value : Type} (lists : List (List Value)) (target : List Value)
    (same : ∀ list ∈ lists, list.Perm target) :
    lists.flatten.Perm (List.replicate lists.length target).flatten := by
  induction lists with
  | nil => exact .refl _
  | cons list rest ih =>
      rw [List.forall_mem_cons] at same
      exact same.1.append (ih same.2)

/-- A run over distinct source keys writes one report for each rejected row. -/
theorem Processor.errorRuns_perm {Id : Type} (idOf : ErrorKey → Id) (embed : Key → Id)
    (injective : Function.Injective embed)
    (ids : ∀ now row, idOf (processor.error.primaryKey
      (processor.error.select now (toSource row))) = embed (keyOf row))
    (report : ∀ now row, (processor.error.select now row).toErrorReport =
      (processor.error.select 0 row).toErrorReport)
    (source : KeyedTable keyOf) (run : List (Timestamp × Row))
    (reads : (run.map Prod.snd).Perm source.rows) :
    ((processor.errorRuns toSource [run]).map ErrorSink.toErrorReport).Perm
      (processor.rejections toSource source.rows) := by
  have written := (processor.error.comap toSource).map_written
    (fun row => idOf (processor.error.primaryKey row)) (fun row => embed (keyOf row)) ids run
  have distinct : (((processor.error.comap toSource).written run).map
      (processor.error.comap toSource).primaryKey).Nodup := by
    apply List.Nodup.of_map idOf
    rw [List.map_map]
    change (((processor.error.comap toSource).written run).map
      fun row => idOf (processor.error.primaryKey row)).Nodup
    rw [written, ((reads.filter _).map _).nodup_iff]
    have sourceKeys := source.distinct.map injective
    rw [List.map_map] at sourceKeys
    exact (List.filter_sublist.map _).nodup sourceKeys
  rw [errorRuns, List.flatten_singleton, InsertSelect.load_eq_upsertAll,
    KeyedTable.rows_upsertAll_of_distinct _ distinct,
    (processor.error.comap toSource).map_written ErrorSink.toErrorReport
      (fun row => (processor.error.select 0 (toSource row)).toErrorReport)
      (fun now row => report now (toSource row)) run]
  exact (reads.filter _).map _

theorem Processor.errorsPerRun {Id : Type} (timeOf : ErrorKey → Timestamp) (idOf : ErrorKey → Id)
    (embed : Key → Id) (injective : Function.Injective embed)
    (stamped : ∀ now row, timeOf (processor.error.primaryKey
      (processor.error.select now row)) = now)
    (ids : ∀ now row, idOf (processor.error.primaryKey
      (processor.error.select now (toSource row))) = embed (keyOf row))
    (report : ∀ now row, (processor.error.select now row).toErrorReport =
      (processor.error.select 0 row).toErrorReport)
    {source : KeyedTable keyOf} (runs : Reruns Timestamp source) :
    processor.ErrorsPerRun toSource runs := by
  have each := perm_replicate_flatten ((runs.first :: runs.rest).map fun run =>
    (processor.errorRuns toSource [run]).map ErrorSink.toErrorReport)
    (processor.rejections toSource source.rows) (by
      intro reports member
      obtain ⟨run, inside, rfl⟩ := List.mem_map.mp member
      exact processor.errorRuns_perm toSource idOf embed injective ids report source run
        (runs.reads run inside))
  rw [List.length_map, List.length_cons, ← List.flatMap_def, ← List.map_flatMap,
    ← processor.errorsApart toSource timeOf stamped runs] at each
  exact each

end Error

section Tables

/-- The clean and error tables keep the rows of the first run up to their timestamps. -/
def Processor.Unchanged {Row Source Data Columns CleanKey ErrorKey Key : Type}
    [DecidableEq CleanKey] [DecidableEq ErrorKey] {keyOf : Row → Key}
    (processor : Processor Source Data Columns CleanKey ErrorKey) (toSource : Row → Source)
    {source : KeyedTable keyOf} (runs : Reruns Timestamp source) : Prop :=
  (processor.cleanRuns toSource (runs.first :: runs.rest)).Perm
      (processor.cleanRuns toSource [runs.first]) ∧
    ((processor.errorRuns toSource (runs.first :: runs.rest)).map ErrorSink.toErrorReport).Perm
      ((processor.errorRuns toSource [runs.first]).map ErrorSink.toErrorReport)

/-- A clean table of unique source keys never changes, and every run repeats its rejections. -/
def Processor.RepeatsErrors {Row Source Data Columns CleanKey ErrorKey Key : Type}
    [DecidableEq CleanKey] [DecidableEq ErrorKey] {keyOf : Row → Key}
    (processor : Processor Source Data Columns CleanKey ErrorKey) (toSource : Row → Source)
    {source : KeyedTable keyOf} (runs : Reruns Timestamp source) : Prop :=
  processor.CleanStable toSource runs ∧ processor.ErrorsPerRun toSource runs

theorem orders_repeatsErrors {source : KeyedTable OrdersRow.orderId}
    (runs : Reruns Timestamp source) :
    OrderProcessor.processOrdersWithSQL.RepeatsErrors OrdersRow.toSource runs :=
  ⟨OrderProcessor.processOrdersWithSQL.cleanStable_of_sourceKey OrdersRow.toSource
      (fun data => data.orderId) OrderProcessor.cleanSelect ⟨fun _ => rfl, fun _ _ => rfl⟩
      embedKey embedKey_injective (fun _ => rfl) runs,
    OrderProcessor.processOrdersWithSQL.errorsPerRun OrdersRow.toSource Prod.snd Prod.fst
      embedKey embedKey_injective (fun _ _ => rfl) (fun _ _ => rfl) (fun _ _ => rfl) runs⟩

theorem products_repeatsErrors {source : KeyedTable ProductsRow.productId}
    (runs : Reruns Timestamp source) :
    ProductProcessor.processProductsWithSQL.RepeatsErrors ProductsRow.toSource runs :=
  ⟨ProductProcessor.processProductsWithSQL.cleanStable_of_sourceKey ProductsRow.toSource
      (fun data => data.productId) ProductProcessor.cleanSelect ⟨fun _ => rfl, fun _ _ => rfl⟩
      embedKey embedKey_injective (fun _ => rfl) runs,
    ProductProcessor.processProductsWithSQL.errorsPerRun ProductsRow.toSource Prod.snd Prod.fst
      embedKey embedKey_injective (fun _ _ => rfl) (fun _ _ => rfl) (fun _ _ => rfl) runs⟩

theorem customers_repeatsErrors {source : KeyedTable CustomersRow.customerId}
    (runs : Reruns Timestamp source) :
    CustomerProcessor.processCustomersWithSQL.RepeatsErrors CustomersRow.toSource runs :=
  ⟨CustomerProcessor.processCustomersWithSQL.cleanStable_of_sourceKey CustomersRow.toSource
      (fun data => data.customerId) CustomerProcessor.cleanSelect ⟨fun _ => rfl, fun _ _ => rfl⟩
      embedKey embedKey_injective (fun _ => rfl) runs,
    CustomerProcessor.processCustomersWithSQL.errorsPerRun CustomersRow.toSource Prod.snd Prod.fst
      embedKey embedKey_injective (fun _ _ => rfl) (fun _ _ => rfl) (fun _ _ => rfl) runs⟩

/-- Resubmitting the job keeps the clean tables as far as each run reads the same rows last, and
adds the rejections of the run to the error tables. -/
theorem resubmission_effect :
    (∀ {source : KeyedTable OrdersRow.orderId} (runs : Reruns Timestamp source),
      OrderProcessor.processOrdersWithSQL.RepeatsErrors OrdersRow.toSource runs) ∧
    (∀ {source : KeyedTable ProductsRow.productId} (runs : Reruns Timestamp source),
      ProductProcessor.processProductsWithSQL.RepeatsErrors ProductsRow.toSource runs) ∧
    (∀ {source : KeyedTable CustomersRow.customerId} (runs : Reruns Timestamp source),
      CustomerProcessor.processCustomersWithSQL.RepeatsErrors CustomersRow.toSource runs) ∧
    (∀ {source : KeyedTable OrderItemsRow.id} (runs : Reruns Timestamp source),
      (OrderItemProcessor.processOrderItemsWithSQL.CleanStable OrderItemsRow.toSource runs ↔
        OrderItemProcessor.processOrderItemsWithSQL.SameLastReads OrderItemsRow.toSource
          (fun data => (data.orderId, data.productId)) OrderItemProcessor.cleanSelect runs) ∧
      OrderItemProcessor.processOrderItemsWithSQL.ErrorsApart OrderItemsRow.toSource runs) ∧
    (∀ {source : KeyedTable PaymentsRow.id} (runs : Reruns Timestamp source),
      (PaymentProcessor.processPaymentsWithSQL.CleanStable PaymentsRow.toSource runs ↔
        PaymentProcessor.processPaymentsWithSQL.SameLastReads PaymentsRow.toSource
          (fun data => (data.orderId, data.paymentType)) PaymentProcessor.cleanSelect runs) ∧
      PaymentProcessor.processPaymentsWithSQL.ErrorsApart PaymentsRow.toSource runs) ∧
    (∀ {source : KeyedTable ReviewsRow.reviewId} (runs : Reruns Timestamp source),
      (ReviewProcessor.processReviewsWithSQL.CleanStable ReviewsRow.toSource runs ↔
        ReviewProcessor.processReviewsWithSQL.SameLastReads ReviewsRow.toSource
          (fun data => data.orderId) ReviewProcessor.cleanSelect runs) ∧
      ReviewProcessor.processReviewsWithSQL.ErrorsApart ReviewsRow.toSource runs) := by
  refine ⟨orders_repeatsErrors, products_repeatsErrors, customers_repeatsErrors, fun runs => ?_,
    fun runs => ?_, fun runs => ?_⟩
  · exact ⟨Processor.cleanStable_iff _ _ _ _ ⟨fun _ => rfl, fun _ _ => rfl⟩ runs,
      Processor.errorsApart _ _ Prod.snd (fun _ _ => rfl) runs⟩
  · exact ⟨Processor.cleanStable_iff _ _ _ _ ⟨fun _ => rfl, fun _ _ => rfl⟩ runs,
      Processor.errorsApart _ _ Prod.snd (fun _ _ => rfl) runs⟩
  · exact ⟨Processor.cleanStable_iff _ _ _ _ ⟨fun _ => rfl, fun _ _ => rfl⟩ runs,
      Processor.errorsApart _ _ Prod.snd (fun _ _ => rfl) runs⟩

section Counterexample

def lostOrder : OrdersRow :=
  ⟨orderOne, some customerOne, some lost, some 0, none, none, some false⟩

/-- The second run reads the same invalid order again. -/
def lostOrderTwice : Reruns Timestamp
    ((KeyedTable.empty OrdersRow.orderId).commitAll [.insert lostOrder]) where
  first := [(0, lostOrder)]
  rest := [[(1, lostOrder)]]
  reads := by decide
  later := by decide

def cheapUnit : OrderItemsRow := ⟨1, some orderOne, some productOne, some 10, some 2, some false⟩

def dearUnit : OrderItemsRow := ⟨2, some orderOne, some productOne, some 20, some 2, some false⟩

/-- The second run reads two units of one product in the other order. -/
def unitsSwapped : Reruns Timestamp
    ((KeyedTable.empty OrderItemsRow.id).commitAll [.insert cheapUnit, .insert dearUnit]) where
  first := [(0, cheapUnit), (0, dearUnit)]
  rest := [[(1, dearUnit), (1, cheapUnit)]]
  reads := by decide
  later := by decide

/-- A second run doubles the error row of an order, and it can replace a clean order item. -/
theorem second_run_changes_tables :
    ¬ OrderProcessor.processOrdersWithSQL.Unchanged OrdersRow.toSource lostOrderTwice ∧
      ¬ OrderItemProcessor.processOrderItemsWithSQL.Unchanged OrderItemsRow.toSource
        unitsSwapped := by
  constructor
  · intro same
    exact absurd same.2.length_eq (by decide)
  · intro same
    exact absurd (same.1.map fun data => data.price) (by decide)

end Counterexample

end Tables

end OdsPipeline
