import OdsPipeline.Library.Survival
import OdsPipeline.Proof.Routing

namespace OdsPipeline
open Library SqlQueries Postgres

/-- The error statement reads the rows of the source table. -/
def ordersErrorInsert :
    InsertSelect Timestamp OrdersRow (ErrorSink OrdersColumns) (Option String × Timestamp) :=
  OrderProcessor.processOrdersWithSQL.error.comap OrdersRow.toSource

def ordersErrorTable (ignoreUpdateBefore : Bool) (clock : Nat → Timestamp)
    (history : List (Commit OrdersRow (Varchar 50))) : KeyedTable ordersErrorInsert.primaryKey :=
  ordersErrorInsert.afterHistory ignoreUpdateBefore OrdersRow.orderId clock history

def ordersTable (history : List (Commit OrdersRow (Varchar 50))) : KeyedTable OrdersRow.orderId :=
  (KeyedTable.empty OrdersRow.orderId).commitAll history

/-- The timed changelog of the source table. -/
def ordersRecords (clock : Nat → Timestamp) (history : List (Commit OrdersRow (Varchar 50))) :
    List (Timestamp × Change OrdersRow) :=
  stampFrom clock 0 ((KeyedTable.empty OrdersRow.orderId).changelog history)

/-- An error row is live when it is not marked as deleted. -/
def LiveError (table : KeyedTable ordersErrorInsert.primaryKey) (id : Varchar 50)
    (time : Timestamp) : Prop :=
  ∃ row ∈ table.rows, row.columns.orderId = some id.val ∧ row.errorTimestamp = time ∧
    row.isDeleted = false

/-- The current row of the order exists, is not soft-deleted and fails validation. -/
def HasCause (source : KeyedTable OrdersRow.orderId) (id : Varchar 50) : Prop :=
  ∃ current ∈ source.lookup id, current.isDeleted ≠ some true ∧ ordersErrorInsert.Selects current

instance (source : KeyedTable OrdersRow.orderId) (id : Varchar 50) : Decidable (HasCause source id) :=
  inferInstanceAs (Decidable (∃ current ∈ source.lookup id, _))

/-- Each live error row still has its cause. -/
def ErrorsHaveCause (ignoreUpdateBefore : Bool) (clock : Nat → Timestamp)
    (history : List (Commit OrdersRow (Varchar 50))) : Prop :=
  ∀ id time, LiveError (ordersErrorTable ignoreUpdateBefore clock history) id time →
    HasCause (ordersTable history) id

/-- A +I or +U record of the order is rejected at this time. -/
def RejectedAt (id : Varchar 50) (time : Timestamp) (record : Timestamp × Change OrdersRow) : Prop :=
  record.1 = time ∧ record.2.row.orderId = id ∧ ordersErrorInsert.Selects record.2.row ∧
    (record.2.kind = .insert ∨ record.2.kind = .updateAfter)

/-- A -D or counted -U record takes back a rejected version of the order at this time. -/
def RetractedAt (ignoreUpdateBefore : Bool) (id : Varchar 50) (time : Timestamp)
    (record : Timestamp × Change OrdersRow) : Prop :=
  record.1 = time ∧ record.2.row.orderId = id ∧ ordersErrorInsert.Selects record.2.row ∧
    (record.2.kind = .delete ∨ record.2.kind = .updateBefore ∧ ignoreUpdateBefore = false)

section Keys

theorem ordersError_key_iff (id : Varchar 50) (time now : Timestamp) (row : OrdersRow) :
    ordersErrorInsert.primaryKey (ordersErrorInsert.select now row) = (some id.val, time) ↔
      now = time ∧ row.orderId = id := by
  change (some row.orderId.val, now) = (some id.val, time) ↔ _
  rw [Prod.mk.injEq, Option.some.injEq, Subtype.val_inj, and_comm]

theorem ordersError_writes_iff (id : Varchar 50) (time : Timestamp)
    (record : Timestamp × Change OrdersRow) :
    ordersErrorInsert.Writes (some id.val, time) record ↔ RejectedAt id time record := by
  rw [InsertSelect.Writes, ordersError_key_iff, RejectedAt]
  tauto

theorem ordersError_retracts_iff (ignoreUpdateBefore : Bool) (id : Varchar 50) (time : Timestamp)
    (record : Timestamp × Change OrdersRow) :
    ordersErrorInsert.Retracts ignoreUpdateBefore (some id.val, time) record ↔
      RetractedAt ignoreUpdateBefore id time record := by
  rw [InsertSelect.Retracts, ordersError_key_iff, RetractedAt]
  tauto

/-- No statement ever marks an error row as deleted, so a live row is any row at its key. -/
theorem liveError_iff_lookup (ignoreUpdateBefore : Bool) (clock : Nat → Timestamp)
    (history : List (Commit OrdersRow (Varchar 50))) (id : Varchar 50) (time : Timestamp) :
    LiveError (ordersErrorTable ignoreUpdateBefore clock history) id time ↔
      (ordersErrorTable ignoreUpdateBefore clock history).lookup (some id.val, time) ≠ none := by
  constructor
  · rintro ⟨row, member, sameOrder, sameTime, -⟩
    have key : ordersErrorInsert.primaryKey row = (some id.val, time) :=
      Prod.ext sameOrder sameTime
    rw [← key, KeyedTable.lookup_of_mem _ row member]
    simp
  · intro present
    obtain ⟨row, found⟩ := Option.ne_none_iff_exists'.mp present
    obtain ⟨member, key⟩ := KeyedTable.lookup_eq_some _ _ _ found
    obtain ⟨record, -, -, rfl⟩ := ordersErrorInsert.mem_deliver ignoreUpdateBefore _ row member
    exact ⟨_, member, congrArg Prod.fst key, congrArg Prod.snd key, rfl⟩

end Keys

/-- The error table is a log: a live row stands for a rejection that no later record took back at
the very same time, and its order was invalid at some point of the history. -/
theorem orders_error_log (ignoreUpdateBefore : Bool) (clock : Nat → Timestamp)
    (history : List (Commit OrdersRow (Varchar 50))) (id : Varchar 50) (time : Timestamp) :
    (LiveError (ordersErrorTable ignoreUpdateBefore clock history) id time ↔
      ∃ before record after, ordersRecords clock history = before ++ record :: after ∧
        RejectedAt id time record ∧
          ∀ later ∈ after, ¬ RetractedAt ignoreUpdateBefore id time later) ∧
    (LiveError (ordersErrorTable ignoreUpdateBefore clock history) id time →
      ∃ count, ∃ past ∈ (ordersTable (history.take count)).lookup id,
        ordersErrorInsert.Selects past) := by
  have log := ordersErrorInsert.lookup_deliver_ne_none_iff ignoreUpdateBefore
    (ordersRecords clock history) (some id.val, time)
  simp only [ordersError_writes_iff, ordersError_retracts_iff] at log
  have live := (liveError_iff_lookup ignoreUpdateBefore clock history id time).trans log
  refine ⟨live, fun alive => ?_⟩
  obtain ⟨before, record, after, split, ⟨-, rfl, rejected, written⟩, -⟩ := live.mp alive
  have member : record.2 ∈ (KeyedTable.empty OrdersRow.orderId).changelog history := by
    have inside : record ∈ ordersRecords clock history := by simp [split]
    have mapped := List.mem_map_of_mem (f := Prod.snd) inside
    rwa [ordersRecords, stampFrom_changes] at mapped
  obtain ⟨count, current⟩ :=
    (KeyedTable.empty OrdersRow.orderId).exists_current_of_written history record.2 member written
  exact ⟨count, record.2.row, current, rejected⟩

/-- The second statement repairs the status of the order. -/
def repairedOrder : List (Commit OrdersRow (Varchar 50)) :=
  [.insert ⟨orderOne, some customerOne, some lost, some 0, none, none, some false⟩,
    .update ⟨orderOne, some customerOne, some shipped, some 0, none, none, some false⟩]

/-- The error row of the repaired order stays live with either treatment of -U records. -/
theorem repaired_order_keeps_error :
    ¬ ErrorsHaveCause true (fun position => position) repairedOrder ∧
      ¬ ErrorsHaveCause false (fun position => position) repairedOrder := by
  refine ⟨fun cause => ?_, fun cause => ?_⟩
  · have alive := (liveError_iff_lookup true (fun position => position) repairedOrder
      ⟨"o1", by decide⟩ 0).mpr (by decide)
    exact absurd (cause _ _ alive) (by decide)
  · have alive := (liveError_iff_lookup false (fun position => position) repairedOrder
      ⟨"o1", by decide⟩ 0).mpr (by decide)
    exact absurd (cause _ _ alive) (by decide)

end OdsPipeline
