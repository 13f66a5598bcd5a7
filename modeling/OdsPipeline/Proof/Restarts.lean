import OdsPipeline.Construction.Restarts
import OdsPipeline.Library.Restart
import OdsPipeline.Proof.EndToEnd

namespace OdsPipeline
open Library SqlQueries Postgres OdsETLJob StarRocks MaterializedViews

namespace Feed
variable {Row Key Source Data Columns CleanKey ErrorKey : Type} [DecidableEq Key]
  [DecidableEq CleanKey] (feed : Feed Row Key Source Data Columns CleanKey ErrorKey)

/-- A feed reads the records of one slot, and no record of another slot. -/
structure ReadsSlot (table : SourceTable) : Prop where
  own : ∀ history, slot history table = (feed.changelog history).map feed.tag
  other : ∀ history next, next ≠ table → ∀ record ∈ slot history next, ∀ now,
    feed.record (now, record) = none
  beside : ∀ clean error, feed.clean (clean.beside error) = feed.clean clean

/-- The changes of the source table of the feed. -/
def sourceLog (history : List Statement) : List (Change Row) :=
  (KeyedTable.empty feed.keyOf).changelog (feed.own history)

/-- The clean table is where a reader leaves it that has gone back some times. -/
def FollowsTo (history : List Statement) (position : Nat)
    (clean : KeyedTable feed.processor.clean.primaryKey) : Prop :=
  InsertSelect.ReadTo (feed.processor.clean.comap feed.toSource) CleanSink.data feed.dataKey
    feed.cleanData (feed.sourceLog history) position clean

def Follows (table : SourceTable) (state : Pipeline) : Prop :=
  feed.FollowsTo state.history (state.readers table).position (feed.clean state.jobs)

variable {feed} {table : SourceTable} {state : Pipeline}

theorem follows_start : feed.Follows table Pipeline.start := by
  have empty : feed.clean Pipeline.start.jobs = KeyedTable.empty _ := feed.mainEmpty
  rw [Follows, empty]
  exact InsertSelect.readTo_start

/-- A commit adds its records to the end of the log. -/
theorem sourceLog_concat (history : List Statement) (next : Statement) :
    ∃ more, feed.sourceLog (history ++ [next]) = feed.sourceLog history ++ more := by
  refine ⟨(feed.source (Database.empty.commitAll history)).changelog (feed.own [next]), ?_⟩
  rw [sourceLog, own, List.filterMap_append, KeyedTable.changelog_append, source_commitAll]
  rfl

variable (feed)

theorem changelog_grows (history : List Statement) (next : Statement) :
    feed.changelog history <+: feed.changelog (history ++ [next]) := by
  obtain ⟨more, log⟩ := feed.sourceLog_concat history next
  change (feed.sourceLog history).map _ <+: (feed.sourceLog (history ++ [next])).map _
  rw [log, List.map_append]
  exact List.prefix_append _ _

end Feed

section Ready

/-- The pending records are the records of the log behind the position. -/
def Reader.Ready (log : List OdsETLJob.Record) (reader : Reader) : Prop :=
  reader.pending.map Prod.snd <+: log.drop reader.position

namespace Reader.Ready
variable {log : List OdsETLJob.Record} {reader : Reader}

theorem grows (ready : reader.Ready log) {longer : List OdsETLJob.Record} (more : log <+: longer) :
    reader.Ready longer := ready.trans (more.drop _)

theorem read (ready : reader.Ready log) (now : Timestamp) (record : OdsETLJob.Record)
    (found : log[reader.position + reader.pending.length]? = some record) :
    (reader.read (now, record)).Ready log := by
  have behind := List.prefix_iff_eq_take.mp ready
  rw [List.length_map] at behind
  have next : (log.drop reader.position).take (reader.pending.length + 1) =
      (log.drop reader.position).take reader.pending.length ++ [record] := by
    rw [List.take_add_one, List.getElem?_drop, found]
    rfl
  change (reader.pending ++ [(now, record)]).map Prod.snd <+: log.drop reader.position
  rw [List.map_append, behind, List.map_singleton, ← next]
  exact List.take_prefix _ _

theorem publish (ready : reader.Ready log) (count : Nat) : (reader.publish count).Ready log := by
  change (reader.pending.drop count).map Prod.snd <+: log.drop (reader.position + count)
  rw [List.map_drop, ← List.drop_drop]
  exact ready.drop count

end Reader.Ready

namespace Pipeline
variable {state next : Pipeline}

/-- Each job has read the records of its slot in their order. -/
def Ready (state : Pipeline) : Prop :=
  ∀ table, (state.readers table).Ready (slot state.history table)

theorem slot_grows (history : List Statement) (next : Statement) (table : SourceTable) :
    slot history table <+: slot (history ++ [next]) table := by
  cases table with
  | orders => exact (ordersFeed.changelog_grows history next).map _
  | orderItems => exact (orderItemsFeed.changelog_grows history next).map _
  | products => exact (productsFeed.changelog_grows history next).map _
  | reviews => exact (reviewsFeed.changelog_grows history next).map _
  | payments => exact (paymentsFeed.changelog_grows history next).map _
  | customers => exact (customersFeed.changelog_grows history next).map _

theorem ready_start : start.Ready := fun _ => List.nil_prefix

theorem readers_enter_self (state : Pipeline) (table : SourceTable) (reader : Reader) :
    (state.enter table reader).readers table = reader := Function.update_self _ _ _

theorem readers_enter_of_ne (state : Pipeline) {table other : SourceTable} (reader : Reader)
    (different : other ≠ table) :
    (state.enter table reader).readers other = state.readers other :=
  Function.update_of_ne different _ _

/-- A job that stays at its position leaves all positions. -/
theorem position_enter (state : Pipeline) (table other : SourceTable) (reader : Reader)
    (stays : reader.position = (state.readers table).position) :
    ((state.enter table reader).readers other).position = (state.readers other).position := by
  by_cases same : other = table
  · rw [same, readers_enter_self, stays]
  · rw [readers_enter_of_ne state reader same]

theorem Ready.enter (ready : state.Ready) {table : SourceTable} {reader : Reader}
    (own : reader.Ready (slot state.history table)) : (state.enter table reader).Ready := by
  intro other
  by_cases same : other = table
  · rw [same, readers_enter_self]
    exact own
  · rw [readers_enter_of_ne state reader same]
    exact ready other

theorem Ready.moves (ready : state.Ready) (moves : state.Moves next) : next.Ready := by
  cases moves with
  | commits statement => exact fun table => (ready table).grows (slot_grows _ statement table)
  | reads table now record found => exact ready.enter ((ready table).read now record found)
  | flushes table count inside more => exact ready.enter (ready table)
  | publishes table count written => exact ready.enter ((ready table).publish count)
  | restarts table checkpoint passed => exact ready.enter List.nil_prefix

theorem ready_of_reachable (reached : state.Reachable) : state.Ready := by
  induction reached with
  | refl => exact ready_start
  | tail _ moves ih => exact ih.moves moves

end Pipeline

end Ready

namespace Feed
variable {Row Key Source Data Columns CleanKey ErrorKey : Type} [DecidableEq Key]
  [DecidableEq CleanKey] {feed : Feed Row Key Source Data Columns CleanKey ErrorKey}
  {table : SourceTable} {state : Pipeline}

/-- The first pending records of the job reach the clean table as changes of the source rows. -/
theorem ReadsSlot.exists_published (slotted : feed.ReadsSlot table) (ready : state.Ready)
    (count : Nat) (inside : count ≤ (state.readers table).pending.length) :
    ∃ timed : List (Timestamp × Change Row),
      timed.map Prod.snd <+: (feed.sourceLog state.history).drop (state.readers table).position ∧
      timed.length = count ∧
      feed.clean (state.jobs.run ((state.readers table).pending.take count)) =
        (feed.processor.clean.comap feed.toSource).deliver true (feed.clean state.jobs) timed := by
  let changes := ((feed.sourceLog state.history).drop (state.readers table).position).take count
  have behind := List.prefix_iff_eq_take.mp ((ready table).take count)
  rw [List.length_take, List.length_map, Nat.min_eq_left inside, slotted.own,
    ← List.map_take, ← List.map_drop, List.take_take, Nat.min_self, ← List.map_take] at behind
  have arrived : feed.arrived ((state.readers table).pending.take count) =
      changes.map (Change.map feed.toSource) := by
    rw [feed.arrived_of_tags _ _ behind, changelog, ← List.map_drop, ← List.map_take]
    rfl
  obtain ⟨timed, same, projected⟩ := exists_of_projected feed.toSource _ changes arrived
  refine ⟨timed, ?_, ?_, ?_⟩
  · rw [same]
    exact List.take_prefix _ _
  · have sizes := congrArg List.length behind
    rw [List.length_map, List.length_map, List.length_take, Nat.min_eq_left inside] at sizes
    rw [← List.length_map Prod.snd, same, sizes]
    simp [changes, changelog, sourceLog]
  · rw [clean_jobs_run, projected]
    exact (feed.processor.clean.deliver_comap feed.toSource true _ timed).symm

/-- The records of another job reach no table of this one. -/
theorem ReadsSlot.clean_other (slotted : feed.ReadsSlot table) (ready : state.Ready)
    {other : SourceTable} (different : other ≠ table) (count : Nat) :
    feed.clean (state.jobs.run ((state.readers other).pending.take count)) =
      feed.clean state.jobs := by
  have foreign : ((state.readers other).pending.take count).filterMap feed.record = [] := by
    apply List.filterMap_eq_nil_iff.mpr
    intro arrived member
    have read := (ready other).subset (List.mem_map_of_mem (List.mem_of_mem_take member))
    exact slotted.other state.history other different _ (List.mem_of_mem_drop read) _
  rw [clean_jobs_run, foreign, InsertSelect.deliver_nil]

/-- A move of the pipeline lets the log of a feed grow, or its job publishes the next records, or
its job goes back. -/
theorem move_cases (slotted : feed.ReadsSlot table) (ready : state.Ready) {next : Pipeline}
    (moves : state.Moves next) :
    (∃ more, feed.sourceLog next.history = feed.sourceLog state.history ++ more ∧
        (next.readers table).position = (state.readers table).position ∧
        feed.clean next.jobs = feed.clean state.jobs) ∨
      (∃ timed : List (Timestamp × Change Row),
        timed.map Prod.snd <+: (feed.sourceLog state.history).drop (state.readers table).position ∧
        next.history = state.history ∧
        (next.readers table).position = (state.readers table).position + timed.length ∧
        feed.clean next.jobs = (feed.processor.clean.comap feed.toSource).deliver true
          (feed.clean state.jobs) timed) ∨
      (next.readers table).position ≤ (state.readers table).position ∧
        next.history = state.history ∧ feed.clean next.jobs = feed.clean state.jobs := by
  have unchanged : feed.sourceLog state.history = feed.sourceLog state.history ++ [] :=
    (List.append_nil _).symm
  cases moves with
  | commits statement =>
      obtain ⟨more, log⟩ := feed.sourceLog_concat state.history statement
      exact .inl ⟨more, log, rfl, rfl⟩
  | reads other now record found =>
      exact .inl ⟨[], unchanged, state.position_enter other table _ rfl, rfl⟩
  | flushes other count inside more =>
      -- a flush writes error rows only
      exact .inl ⟨[], unchanged, state.position_enter other table _ rfl, slotted.beside _ _⟩
  | publishes other count written =>
      by_cases same : other = table
      · subst same
        have inside := Nat.le_trans written (state.readers other).within
        obtain ⟨timed, part, size, clean⟩ := slotted.exists_published ready count inside
        refine .inr (.inl ⟨timed, part, rfl, ?_, (slotted.beside _ _).trans clean⟩)
        rw [size]
        exact congrArg Reader.position (state.readers_enter_self other _)
      · refine .inl ⟨[], unchanged, ?_, ?_⟩
        · exact congrArg Reader.position (state.readers_enter_of_ne _ (Ne.symm same))
        · exact (slotted.beside _ _).trans (slotted.clean_other ready same count)
  | restarts other checkpoint passed =>
      refine .inr (.inr ⟨?_, rfl, rfl⟩)
      by_cases same : other = table
      · subst same
        rw [Pipeline.restart, state.readers_enter_self]
        exact passed
      · rw [Pipeline.restart, state.readers_enter_of_ne _ (Ne.symm same)]

/-- One move of the pipeline keeps what a clean table follows. -/
theorem Follows.moves (slotted : feed.ReadsSlot table) (ready : state.Ready)
    (follows : feed.Follows table state) {next : Pipeline} (moves : state.Moves next) :
    feed.Follows table next := by
  rcases move_cases slotted ready moves with ⟨more, log, position, clean⟩ |
    ⟨timed, part, history, position, clean⟩ | ⟨back, history, clean⟩
  · rw [Follows, FollowsTo, log, position, clean]
    exact InsertSelect.ReadTo.grows follows more
  · rw [Follows, FollowsTo, history, position, clean]
    exact InsertSelect.ReadTo.readsAll feed.keeps timed follows part
  · rw [Follows, FollowsTo, history, clean]
    exact InsertSelect.ReadTo.rewind follows _ back

theorem follows_of_reachable (slotted : feed.ReadsSlot table) (reached : state.Reachable) :
    feed.Follows table state := by
  induction reached with
  | refl => exact follows_start
  | tail earlier moves ih => exact ih.moves slotted (Pipeline.ready_of_reachable earlier) moves

variable (feed)

/-- A caught-up clean table has the data that one reading without a restart leaves. -/
def Traceless (table : SourceTable) (state : Pipeline) : Prop :=
  state.CaughtUp table → ((feed.clean state.jobs).rows.map CleanSink.data).Perm
    ((feed.clean (main.run (feed.tagged (feed.changelog state.history)))).rows.map CleanSink.data)

variable {feed}

theorem traceless_of_reachable (slotted : feed.ReadsSlot table) (reached : state.Reachable) :
    feed.Traceless table state := by
  intro caughtUp
  have follows := follows_of_reachable slotted reached
  rw [Pipeline.CaughtUp, slotted.own, changelog, List.length_map, List.length_map] at caughtUp
  rw [Follows, caughtUp] at follows
  rw [clean_tagged]
  exact InsertSelect.ReadTo.perm feed.keeps follows _ (stampFrom_changes _ _ _)

/-- A caught-up clean table holds its valid rows when no statement breaks it. -/
theorem holds_of_reachable (slotted : feed.ReadsSlot table) (reached : state.Reachable)
    (caughtUp : state.CaughtUp table) (unbroken : feed.Unbroken state.history) :
    feed.Holds (Database.empty.commitAll state.history) state.jobs :=
  (traceless_of_reachable slotted reached caughtUp).trans
    (feed.holds_complete _ unbroken _ (feed.arrived_tagged _))

end Feed

section Slots

theorem ordersFeed_readsSlot : ordersFeed.ReadsSlot .orders where
  own _ := rfl
  other history next different record member now := by
    cases next <;> first
      | exact absurd rfl different
      | (obtain ⟨change, -, rfl⟩ := List.mem_map.mp member; rfl)
  beside _ _ := rfl

theorem orderItemsFeed_readsSlot : orderItemsFeed.ReadsSlot .orderItems where
  own _ := rfl
  other history next different record member now := by
    cases next <;> first
      | exact absurd rfl different
      | (obtain ⟨change, -, rfl⟩ := List.mem_map.mp member; rfl)
  beside _ _ := rfl

theorem productsFeed_readsSlot : productsFeed.ReadsSlot .products where
  own _ := rfl
  other history next different record member now := by
    cases next <;> first
      | exact absurd rfl different
      | (obtain ⟨change, -, rfl⟩ := List.mem_map.mp member; rfl)
  beside _ _ := rfl

theorem reviewsFeed_readsSlot : reviewsFeed.ReadsSlot .reviews where
  own _ := rfl
  other history next different record member now := by
    cases next <;> first
      | exact absurd rfl different
      | (obtain ⟨change, -, rfl⟩ := List.mem_map.mp member; rfl)
  beside _ _ := rfl

theorem paymentsFeed_readsSlot : paymentsFeed.ReadsSlot .payments where
  own _ := rfl
  other history next different record member now := by
    cases next <;> first
      | exact absurd rfl different
      | (obtain ⟨change, -, rfl⟩ := List.mem_map.mp member; rfl)
  beside _ _ := rfl

theorem customersFeed_readsSlot : customersFeed.ReadsSlot .customers where
  own _ := rfl
  other history next different record member now := by
    cases next <;> first
      | exact absurd rfl different
      | (obtain ⟨change, -, rfl⟩ := List.mem_map.mp member; rfl)
  beside _ _ := rfl

end Slots

namespace Pipeline

/-- The views are those of the valid source rows when the four jobs behind them have caught up. -/
def ShowsSources (state : Pipeline) : Prop :=
  ∀ run : UnbrokenRun, run.history = state.history → state.CaughtUp .orders →
    state.CaughtUp .orderItems → state.CaughtUp .products → state.CaughtUp .payments →
      SameViews state.jobs.cleanTables (run.validTables (.all run.history.length))

theorem showsSources_of_reachable {state : Pipeline} (reached : state.Reachable) :
    state.ShowsSources := by
  intro run same orders orderItems products payments
  have settled : run.databaseAt run.history.length = Database.empty.commitAll state.history := by
    rw [UnbrokenRun.databaseAt, List.take_length, same]
  apply run.sameViews_of_holds
  · rw [Positions.all, settled]
    exact Feed.holds_of_reachable ordersFeed_readsSlot reached orders (same ▸ run.orders)
  · rw [Positions.all, settled]
    exact Feed.holds_of_reachable orderItemsFeed_readsSlot reached orderItems
      (same ▸ run.orderItems)
  · rw [Positions.all, settled]
    exact Feed.holds_of_reachable productsFeed_readsSlot reached products (same ▸ run.products)
  · rw [Positions.all, settled]
    exact Feed.holds_of_reachable paymentsFeed_readsSlot reached payments (same ▸ run.payments)

end Pipeline

/-- However commits, reads and restarts from checkpoints interleave, a job that has caught up leaves
the clean data that one reading without a restart leaves, and the views show the valid source rows. -/
theorem restarts_leave_no_trace (pipeline : RestartedPipeline) :
    ordersFeed.Traceless .orders pipeline.state ∧
      orderItemsFeed.Traceless .orderItems pipeline.state ∧
      productsFeed.Traceless .products pipeline.state ∧
      reviewsFeed.Traceless .reviews pipeline.state ∧
      paymentsFeed.Traceless .payments pipeline.state ∧
      customersFeed.Traceless .customers pipeline.state ∧ pipeline.state.ShowsSources := by
  obtain ⟨state, reached⟩ := pipeline
  refine ⟨?_, ?_, ?_, ?_, ?_, ?_, ?_⟩
  · exact Feed.traceless_of_reachable ordersFeed_readsSlot reached
  · exact Feed.traceless_of_reachable orderItemsFeed_readsSlot reached
  · exact Feed.traceless_of_reachable productsFeed_readsSlot reached
  · exact Feed.traceless_of_reachable reviewsFeed_readsSlot reached
  · exact Feed.traceless_of_reachable paymentsFeed_readsSlot reached
  · exact Feed.traceless_of_reachable customersFeed_readsSlot reached
  · exact Pipeline.showsSources_of_reachable reached

section Example
variable {state : Pipeline}

/-- Statements that no job has read. -/
theorem Pipeline.reachable_committed (history : List Statement) :
    ({ Pipeline.start with history := history } : Pipeline).Reachable := by
  induction history using List.reverseRecOn with
  | nil => exact .refl
  | append_singleton history next ih => exact ih.tail (.commits next)

/-- A job reads one more record, and a checkpoint publishes all pending ones. -/
def Pipeline.deliver (state : Pipeline) (table : SourceTable)
    (arrived : Timestamp × OdsETLJob.Record) : Pipeline :=
  ((state.read table arrived).flush table _ (Nat.le_refl _)).publish table
    ((state.read table arrived).readers table).pending.length

theorem Pipeline.Reachable.delivers (reached : state.Reachable) (table : SourceTable)
    (now : Timestamp) (record : OdsETLJob.Record)
    (found : (slot state.history table)[(state.readers table).position +
      (state.readers table).pending.length]? = some record) :
    (state.deliver table (now, record)).Reachable := by
  let reading := state.read table (now, record)
  have read : reading.Reachable := reached.tail (.reads table now record found)
  have all : ((reading.flush table _ (Nat.le_refl _)).readers table).flushed =
      (reading.readers table).pending.length :=
    congrArg Reader.flushed (reading.readers_enter_self table _)
  have flushed := read.tail (.flushes table _ (Nat.le_refl _) (Reader.within _))
  exact flushed.tail (.publishes table _ (Nat.le_of_eq all.symm))

/-- The orders job publishes the order of a sale, goes back to its start and publishes it again. -/
def resold : RestartedPipeline where
  state :=
    let committed : Pipeline := { Pipeline.start with history := oneSale.history }
    let order : OdsETLJob.Record := .orders ⟨.insert,
      ⟨⟨some "o1", some "c1", some "shipped", some 0, none, none⟩, some false⟩⟩
    ((committed.deliver .orders (3, order)).restart .orders 0).deliver .orders (8, order)
  reached := by
    have first := (Pipeline.reachable_committed oneSale.history).delivers .orders 3 _ rfl
    have back : Pipeline.Reachable _ := first.tail (.restarts .orders 0 (Nat.zero_le _))
    exact back.delivers .orders 8 _ rfl

theorem resold_holds : ((ordersFeed.clean resold.state.jobs).rows.map CleanSink.data).Perm
    ((ordersFeed.clean (main.run (ordersFeed.tagged
      (ordersFeed.changelog oneSale.history)))).rows.map CleanSink.data) :=
  (restarts_leave_no_trace resold).1 rfl

end Example

end OdsPipeline
