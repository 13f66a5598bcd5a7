import OdsPipeline.Construction.Feed

namespace OdsPipeline
open Library SqlQueries Postgres OdsETLJob

namespace Feed
variable {Row Key Source Data Columns CleanKey ErrorKey : Type} [DecidableEq Key]
  [DecidableEq CleanKey] (feed : Feed Row Key Source Data Columns CleanKey ErrorKey)

/-- The source table follows its own statements. -/
theorem source_commitAll (history : List Statement) :
    feed.source (Database.empty.commitAll history) =
      (KeyedTable.empty feed.keyOf).commitAll (feed.own history) := by
  rw [← feed.startsEmpty]
  exact KeyedTable.foldl_own feed.source Database.commit feed.statement feed.reached feed.passed
    Database.empty history

/-- The clean table follows its own records. -/
theorem clean_jobs_run (jobs : Jobs) (records : List (Timestamp × OdsETLJob.Record)) :
    feed.clean (jobs.run records) =
      feed.processor.clean.deliver true (feed.clean jobs) (records.filterMap feed.record) := by
  exact feed.processor.clean.foldl_own true feed.clean
    (fun jobs record => jobs.process record.1 record.2) feed.record feed.processed feed.skipped
    jobs records

theorem clean_run (records : List (Timestamp × OdsETLJob.Record)) :
    feed.clean (main.run records) =
      feed.processor.clean.deliver true (KeyedTable.empty _) (records.filterMap feed.record) := by
  rw [← feed.mainEmpty]
  exact feed.clean_jobs_run main records

/-- A part of the changelog reaches the clean table as the same part of the source changes. -/
theorem exists_changes (records : List (Timestamp × OdsETLJob.Record)) (history : List Statement)
    (read : feed.arrived records <+: feed.changelog history) :
    ∃ timed : List (Timestamp × Change Row),
      timed.map Prod.snd = ((KeyedTable.empty feed.keyOf).changelog (feed.own history)).take
        (feed.arrived records).length ∧
      feed.clean (main.run records) =
        (feed.processor.clean.comap feed.toSource).deliver true (KeyedTable.empty _) timed := by
  have part := List.prefix_iff_eq_take.mp read
  rw [changelog, ← List.map_take] at part
  obtain ⟨timed, same, projected⟩ := exists_of_projected feed.toSource _ _ part
  refine ⟨timed, same, ?_⟩
  rw [clean_run, projected]
  exact (feed.processor.clean.deliver_comap feed.toSource true _ timed).symm

/-- A clean table that has read a part of its changelog holds the valid rows of its source table
at some earlier statement. -/
theorem holds_earlier (history : List Statement) (unbroken : feed.Unbroken history)
    (records : List (Timestamp × OdsETLJob.Record))
    (read : feed.arrived records <+: feed.changelog history) :
    ∃ count ≤ history.length,
      feed.Holds (Database.empty.commitAll (history.take count)) (main.run records) := by
  obtain ⟨timed, same, delivered⟩ := feed.exists_changes records history read
  obtain ⟨few, -, image⟩ := image_of_prefix feed.keeps (feed.own history) unbroken timed
    (by rw [same]; exact List.take_prefix _ _)
  obtain ⟨earlier, begins, own⟩ := List.prefix_filterMap_iff.mp
    (List.take_prefix few (feed.own history))
  have taken := List.prefix_iff_eq_take.mp begins
  refine ⟨earlier.length, begins.length_le, ?_⟩
  rw [own] at image
  rw [Holds, source_commitAll, ← taken, delivered]
  exact image

/-- A clean table that has read its whole changelog is an image of its source table. -/
theorem holds_complete (history : List Statement) (unbroken : feed.Unbroken history)
    (records : List (Timestamp × OdsETLJob.Record))
    (read : feed.arrived records = feed.changelog history) :
    feed.Holds (Database.empty.commitAll history) (main.run records) := by
  obtain ⟨timed, same, delivered⟩ := feed.exists_changes records history
    (read ▸ List.prefix_refl _)
  rw [Holds, source_commitAll, delivered]
  apply image_of_neverBreaks feed.keeps _ unbroken timed
  rw [same, read, changelog, List.length_map, List.take_length]

theorem unbroken_take (history : List Statement) (unbroken : feed.Unbroken history) (count : Nat) :
    feed.Unbroken (history.take count) := by
  have split : feed.own history = feed.own (history.take count) ++ feed.own (history.drop count) := by
    rw [own, own, own, ← List.filterMap_append, List.take_append_drop]
  rw [Unbroken, split] at unbroken
  exact unbroken.of_append

/-- The feed reads only records that have its tag. -/
def ReadsOwn : Prop :=
  ∀ arrived change, feed.record arrived = some change → arrived = (change.1, feed.tag change.2)

/-- The records of one feed in their order, all read at one time. -/
def tagged (changes : List (Change Source)) : List (Timestamp × OdsETLJob.Record) :=
  changes.map fun change => (0, feed.tag change)

theorem filterMap_record_tagged (changes : List (Change Source)) :
    (feed.tagged changes).filterMap feed.record = changes.map fun change => (0, change) := by
  rw [tagged, List.filterMap_map, ← List.filterMap_eq_map]
  congr 1
  funext change
  exact feed.record_tag 0 change

theorem arrived_tagged (changes : List (Change Source)) :
    feed.arrived (feed.tagged changes) = changes := by
  rw [arrived, filterMap_record_tagged, List.map_map]
  exact List.map_id _

/-- Records with the tag of the feed all arrive. -/
theorem arrived_of_tags (records : List (Timestamp × OdsETLJob.Record))
    (changes : List (Change Source)) (tags : records.map Prod.snd = changes.map feed.tag) :
    feed.arrived records = changes := by
  induction records generalizing changes with
  | nil => exact (List.map_eq_nil_iff.mp tags.symm).symm
  | cons record rest ih =>
      obtain ⟨change, others, rfl, first, later⟩ := List.map_eq_cons_iff.mp tags.symm
      have found : feed.record record = some (record.1, change) := by
        rw [← feed.record_tag record.1 change, first]
      rw [arrived, List.filterMap_cons_some found, List.map_cons]
      exact congrArg _ (ih others later.symm)

theorem clean_tagged (history : List Statement) :
    feed.clean (main.run (feed.tagged (feed.changelog history))) =
      (feed.processor.clean.comap feed.toSource).afterHistory true feed.keyOf (fun _ => 0)
        (feed.own history) := by
  have projected := feed.processor.clean.deliver_comap feed.toSource true (KeyedTable.empty _)
    (((KeyedTable.empty feed.keyOf).changelog (feed.own history)).map fun change => (0, change))
  rw [List.map_map] at projected
  rw [clean_run, filterMap_record_tagged, changelog, List.map_map, InsertSelect.afterHistory,
    stampFrom_const]
  exact projected.symm

/-- A caught-up clean table always holds its valid rows exactly when no statement breaks it. -/
theorem alwaysHolds_iff (history : List Statement) :
    feed.AlwaysHolds history ↔ feed.Unbroken history := by
  constructor
  · intro held
    apply (image_run_iff feed.keeps (fun _ => 0) (feed.own history)).mp
    intro count
    obtain ⟨earlier, begins, own⟩ := List.prefix_filterMap_iff.mp
      (List.take_prefix count (feed.own history))
    have here := held earlier.length (feed.tagged (feed.changelog earlier))
    rw [← List.prefix_iff_eq_take.mp begins, Holds, source_commitAll, clean_tagged] at here
    rw [own]
    exact here (feed.arrived_tagged _)
  · intro unbroken count records read
    apply feed.holds_complete _ _ records read
    exact feed.unbroken_take history unbroken count

end Feed

/-- Each of the six clean tables holds the valid rows of its source after every statement of a run
exactly when no statement of the run invalidates a row, moves a clean key or collides at one. -/
theorem clean_tables_hold_iff (history : List Statement) :
    (ordersFeed.AlwaysHolds history ↔ ordersFeed.Unbroken history) ∧
      (orderItemsFeed.AlwaysHolds history ↔ orderItemsFeed.Unbroken history) ∧
      (productsFeed.AlwaysHolds history ↔ productsFeed.Unbroken history) ∧
      (reviewsFeed.AlwaysHolds history ↔ reviewsFeed.Unbroken history) ∧
      (paymentsFeed.AlwaysHolds history ↔ paymentsFeed.Unbroken history) ∧
      (customersFeed.AlwaysHolds history ↔ customersFeed.Unbroken history) :=
  ⟨ordersFeed.alwaysHolds_iff history, orderItemsFeed.alwaysHolds_iff history,
    productsFeed.alwaysHolds_iff history, reviewsFeed.alwaysHolds_iff history,
    paymentsFeed.alwaysHolds_iff history, customersFeed.alwaysHolds_iff history⟩

section Tags

theorem ordersFeed_readsOwn : ordersFeed.ReadsOwn := by
  rintro ⟨now, next⟩ change found; cases next <;> cases found; rfl

theorem orderItemsFeed_readsOwn : orderItemsFeed.ReadsOwn := by
  rintro ⟨now, next⟩ change found; cases next <;> cases found; rfl

theorem productsFeed_readsOwn : productsFeed.ReadsOwn := by
  rintro ⟨now, next⟩ change found; cases next <;> cases found; rfl

theorem reviewsFeed_readsOwn : reviewsFeed.ReadsOwn := by
  rintro ⟨now, next⟩ change found; cases next <;> cases found; rfl

theorem paymentsFeed_readsOwn : paymentsFeed.ReadsOwn := by
  rintro ⟨now, next⟩ change found; cases next <;> cases found; rfl

theorem customersFeed_readsOwn : customersFeed.ReadsOwn := by
  rintro ⟨now, next⟩ change found; cases next <;> cases found; rfl

end Tags

end OdsPipeline
