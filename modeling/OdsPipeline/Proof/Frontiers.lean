import OdsPipeline.Library.Frontier
import OdsPipeline.Proof.Accounts
import OdsPipeline.Proof.Restarts

namespace OdsPipeline
open Library SqlQueries Postgres OdsETLJob

theorem Pipeline.Moves.history_grows {state next : Pipeline} (moves : state.Moves next) :
    state.history <+: next.history := by
  cases moves with
  | commits next => exact List.prefix_append _ _
  | _ => exact List.prefix_refl _

namespace PipelineRun
variable (run : PipelineRun)

theorem history_grows {earlier later : Nat} (order : earlier ≤ later) :
    (run.states earlier).history <+: (run.states later).history := by
  induction later, order using Nat.le_induction with
  | base => exact List.prefix_refl _
  | succ later _ ih => exact ih.trans (run.moves later).history_grows

theorem published_mono (table : SourceTable) : Monotone (run.published table) :=
  monotone_nat_of_le_succ fun _ => Nat.le_max_left _ _

theorem ready (moment : Nat) : (run.states moment).Ready := by
  induction moment with
  | zero =>
      rw [run.begins]
      exact Pipeline.ready_start
  | succ moment ih => exact ih.moves (run.moves moment)

end PipelineRun

/-- A run of the pipeline beside programs that only insert. -/
structure InsertingRun extends PipelineRun where
  inserts : ∀ moment, ∀ next ∈ (states moment).history, next.Inserts

namespace Feed
variable {Row Key Source Data Columns CleanKey : Type} [DecidableEq Key] [DecidableEq CleanKey]
  (feed : Feed Row Key Source Data Columns CleanKey (CleanKey × Timestamp))

/-- The source rows that the job of the feed has published up to a moment. -/
def publishedRows (table : SourceTable) (run : InsertingRun) (moment : Nat) : List Row :=
  (feed.source (Database.empty.commitAll (run.states moment).history)).rows.take
    (run.published table moment)

/-- The valid rows that were published have different clean keys. -/
def PublishedApart (table : SourceTable) (run : InsertingRun) (moment : Nat) : Prop :=
  (((feed.publishedRows table run moment).filter feed.passes).map feed.cleanKey).Nodup

/-- The clean table shows each valid row that was published, and nothing else. -/
def ShowsPublished (table : SourceTable) (run : InsertingRun) (moment : Nat) : Prop :=
  ((feed.clean (run.states moment).jobs).rows.map CleanSink.data).Perm
    (((feed.publishedRows table run moment).filter feed.passes).map feed.cleanData)

/-- The clean table has all data that it has shown before. -/
def Retains (run : InsertingRun) (moment : Nat) : Prop :=
  ∀ earlier ≤ moment, ((feed.clean (run.states earlier).jobs).rows.map CleanSink.data).Subperm
    ((feed.clean (run.states moment).jobs).rows.map CleanSink.data)

/-- The clean table stands at the last record that its job has ever published. -/
def UpTo (table : SourceTable) (run : InsertingRun) (moment : Nat) : Prop :=
  InsertSelect.UpTo (feed.processor.clean.comap feed.toSource) CleanSink.data feed.dataKey
    feed.cleanData (feed.sourceLog (run.states moment).history)
    ((run.states moment).readers table).position (run.published table moment)
    (feed.clean (run.states moment).jobs)

variable {feed} {table : SourceTable}

/-- The log of an insert-only history inserts the rows of its source table in their order. -/
theorem Errors.sourceLog_eq (errors : feed.Errors) (history : List Statement)
    (inserts : ∀ next ∈ history, next.Inserts) : feed.sourceLog history =
      (feed.source (Database.empty.commitAll history)).rows.map (⟨.insert, ·⟩) := by
  obtain ⟨rows, own⟩ := errors.exists_inserts history inserts
  obtain ⟨added, log, stored⟩ := (KeyedTable.empty feed.keyOf).changelog_inserts rows
  rw [sourceLog, source_commitAll, own, log, stored]
  rfl

theorem Errors.rows_grow (errors : feed.Errors) (run : InsertingRun) {earlier later : Nat}
    (order : earlier ≤ later) :
    (feed.source (Database.empty.commitAll (run.states earlier).history)).rows <+:
      (feed.source (Database.empty.commitAll (run.states later).history)).rows := by
  obtain ⟨since, whole⟩ := run.history_grows order
  obtain ⟨rows, own⟩ := errors.exists_inserts since fun next member =>
    run.inserts later next (by rw [← whole]; exact List.mem_append_right _ member)
  obtain ⟨added, -, stored⟩ := (feed.source (Database.empty.commitAll
    (run.states earlier).history)).changelog_inserts rows
  refine ⟨added, ?_⟩
  rw [← stored, ← own, ← whole, source_commitAll, source_commitAll, Feed.own, Feed.own, Feed.own,
    List.filterMap_append, KeyedTable.commitAll_append]

theorem Errors.publishedRows_grow (errors : feed.Errors) (run : InsertingRun) {earlier later : Nat}
    (order : earlier ≤ later) :
    feed.publishedRows table run earlier <+: feed.publishedRows table run later := by
  have rows := (errors.rows_grow run order).take (run.published table earlier)
  exact rows.trans (List.take_prefix_take_left (run.published_mono table order))

theorem Errors.publishedApart_earlier (errors : feed.Errors) (run : InsertingRun) {earlier later : Nat}
    (order : earlier ≤ later) (apart : feed.PublishedApart table run later) :
    feed.PublishedApart table run earlier :=
  (((errors.publishedRows_grow run order).sublist.filter _).map _).nodup apart

theorem upTo_start (run : InsertingRun) : feed.UpTo table run 0 := by
  have log : feed.sourceLog (run.states 0).history = [] := by
    rw [run.begins]
    rfl
  have clean : feed.clean (run.states 0).jobs = KeyedTable.empty _ := by
    rw [run.begins]
    exact feed.mainEmpty
  have position : ((run.states 0).readers table).position = 0 := by rw [run.begins]; rfl
  rw [UpTo, PipelineRun.published, log, clean, position]
  exact InsertSelect.upTo_start

/-- The clean table stays at the last published record, whatever the next move is. -/
theorem UpTo.succ (errors : feed.Errors) (slotted : feed.ReadsSlot table) {run : InsertingRun}
    {moment : Nat} (upTo : feed.UpTo table run moment)
    (apart : feed.PublishedApart table run (moment + 1)) : feed.UpTo table run (moment + 1) := by
  rcases move_cases slotted (run.ready moment) (run.moves moment) with
    ⟨more, log, position, clean⟩ | ⟨timed, part, history, position, clean⟩ | ⟨back, history, clean⟩
  · rw [UpTo, PipelineRun.published, log, position, clean, Nat.max_eq_left upTo.behind]
    exact InsertSelect.UpTo.grows upTo more
  · have steady : InsertSelect.Steady (feed.processor.clean.comap feed.toSource) feed.dataKey
        feed.cleanData ((feed.publishedRows table run (moment + 1)).map (⟨.insert, ·⟩)) :=
      InsertSelect.steady_inserts apart
    rw [publishedRows, List.map_take, ← errors.sourceLog_eq _ (run.inserts _), history,
      PipelineRun.published, position] at steady
    rw [UpTo, PipelineRun.published, history, position, clean]
    exact InsertSelect.UpTo.readsAll feed.keeps timed upTo steady part
  · rw [UpTo, PipelineRun.published, history, clean,
      Nat.max_eq_left (Nat.le_trans back upTo.behind)]
    exact InsertSelect.UpTo.rewind upTo back

theorem upTo_of_apart (errors : feed.Errors) (slotted : feed.ReadsSlot table) (run : InsertingRun)
    (moment : Nat) (apart : feed.PublishedApart table run moment) :
    feed.UpTo table run moment := by
  induction moment with
  | zero => exact upTo_start run
  | succ moment ih =>
      have before := errors.publishedApart_earlier run (Nat.le_succ moment) apart
      exact (ih before).succ errors slotted apart

/-- A clean table shows what was published exactly when the valid rows of this have different clean
keys. -/
theorem showsPublished_iff (errors : feed.Errors) (slotted : feed.ReadsSlot table) (run : InsertingRun)
    (moment : Nat) : feed.ShowsPublished table run moment ↔ feed.PublishedApart table run moment := by
  constructor
  · intro shows
    have keys := shows.map feed.dataKey
    rw [List.map_map, List.map_map] at keys
    apply keys.nodup_iff.mp
    rw [show feed.dataKey ∘ CleanSink.data = feed.processor.clean.primaryKey from
      funext feed.keeps.sameKey]
    exact (feed.clean (run.states moment).jobs).distinct
  · intro apart
    have upTo := upTo_of_apart errors slotted run moment apart
    rw [UpTo, errors.sourceLog_eq _ (run.inserts moment)] at upTo
    exact InsertSelect.UpTo.perm feed.keeps upTo 0 apart

/-- A clean key that is the primary key of the source keeps all rows apart. -/
theorem publishedApart_of_key (embed : Key → CleanKey) (injective : Function.Injective embed)
    (sameKey : ∀ row, feed.cleanKey row = embed (feed.keyOf row)) (run : InsertingRun)
    (moment : Nat) : feed.PublishedApart table run moment := by
  have keys := (feed.source (Database.empty.commitAll
    (run.states moment).history)).distinct.map injective
  have named : embed ∘ feed.keyOf = feed.cleanKey := (funext sameKey).symm
  rw [List.map_map, named] at keys
  exact ((List.filter_sublist.trans (List.take_sublist _ _)).map _).nodup keys

theorem retains_of_apart (errors : feed.Errors) (slotted : feed.ReadsSlot table)
    (run : InsertingRun) (moment : Nat) (apart : feed.PublishedApart table run moment) :
    feed.Retains run moment := by
  intro earlier order
  have now := (showsPublished_iff errors slotted run moment).mpr apart
  have before := (showsPublished_iff errors slotted run earlier).mpr
    (errors.publishedApart_earlier run order apart)
  have grown : feed.publishedRows table run earlier <+: feed.publishedRows table run moment :=
    errors.publishedRows_grow run order
  have more := (grown.sublist.filter feed.passes).map feed.cleanData
  exact (before.subperm_right.mpr more.subperm).trans now.symm.subperm

/-- The clean table shows what was published, and it never takes back what it has shown. -/
structure ShowsForGood (feed : Feed Row Key Source Data Columns CleanKey (CleanKey × Timestamp))
    (table : SourceTable) (run : InsertingRun) (moment : Nat) : Prop where
  shows : feed.ShowsPublished table run moment
  retains : feed.Retains run moment

theorem showsForGood_iff (errors : feed.Errors) (slotted : feed.ReadsSlot table)
    (run : InsertingRun) (moment : Nat) :
    feed.ShowsForGood table run moment ↔ feed.PublishedApart table run moment := by
  constructor
  · intro good
    exact (showsPublished_iff errors slotted run moment).mp good.shows
  · intro apart
    constructor
    · exact (showsPublished_iff errors slotted run moment).mpr apart
    · exact retains_of_apart errors slotted run moment apart

end Feed

namespace InsertingRun
variable (run : InsertingRun) (moment : Nat)

theorem orders_showForGood : ordersFeed.ShowsForGood .orders run moment :=
  (Feed.showsForGood_iff ordersErrors ordersFeed_readsSlot run moment).mpr
    (Feed.publishedApart_of_key embedKey embedKey_injective (fun _ => rfl) run moment)

theorem products_showForGood : productsFeed.ShowsForGood .products run moment :=
  (Feed.showsForGood_iff productsErrors productsFeed_readsSlot run moment).mpr
    (Feed.publishedApart_of_key embedKey embedKey_injective (fun _ => rfl) run moment)

theorem customers_showForGood : customersFeed.ShowsForGood .customers run moment :=
  (Feed.showsForGood_iff customersErrors customersFeed_readsSlot run moment).mpr
    (Feed.publishedApart_of_key embedKey embedKey_injective (fun _ => rfl) run moment)

/-- However commits, reads, flushes, checkpoints and restarts interleave beside programs that only
insert, at each moment the clean tables show exactly the valid rows that their jobs have published
and never take one back. For items, reviews and payments this is so exactly while no two of these
rows share a clean key. -/
theorem published_rows_stay :
    ordersFeed.ShowsForGood .orders run moment ∧
      productsFeed.ShowsForGood .products run moment ∧
      customersFeed.ShowsForGood .customers run moment ∧
      (orderItemsFeed.ShowsForGood .orderItems run moment ↔
        orderItemsFeed.PublishedApart .orderItems run moment) ∧
      (reviewsFeed.ShowsForGood .reviews run moment ↔
        reviewsFeed.PublishedApart .reviews run moment) ∧
      (paymentsFeed.ShowsForGood .payments run moment ↔
        paymentsFeed.PublishedApart .payments run moment) := by
  refine ⟨run.orders_showForGood moment, run.products_showForGood moment,
    run.customers_showForGood moment, ?_, ?_, ?_⟩
  · exact Feed.showsForGood_iff orderItemsErrors orderItemsFeed_readsSlot run moment
  · exact Feed.showsForGood_iff reviewsErrors reviewsFeed_readsSlot run moment
  · exact Feed.showsForGood_iff paymentsErrors paymentsFeed_readsSlot run moment

end InsertingRun

end OdsPipeline
