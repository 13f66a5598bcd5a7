import OdsPipeline.Library.KeyedTable
import OdsPipeline.Library.Truth

namespace OdsPipeline.Library

/-- A changelog record is +I, -U, +U or -D. -/
inductive RowKind where
  | insert
  | updateBefore
  | updateAfter
  | delete
  deriving DecidableEq, Repr

structure Change (Row : Type*) where
  kind : RowKind
  row : Row
  deriving DecidableEq, Repr

/-- One committed statement on a keyed source table. -/
inductive Commit (Row Key : Type*) where
  | insert (row : Row)
  | update (row : Row)
  | delete (key : Key)
  deriving DecidableEq, Repr

namespace KeyedTable
variable {Row Key : Type*} {keyOf : Row → Key} [DecidableEq Key]

/-- A repeated key rejects an insert, and an unknown key makes an update or delete empty. -/
def commit (table : KeyedTable keyOf) : Commit Row Key → KeyedTable keyOf
  | .insert row => if (table.lookup (keyOf row)).isSome then table else table.upsert row
  | .update row => if (table.lookup (keyOf row)).isSome then table.upsert row else table
  | .delete key => table.delete key

/-- The changelog records of one statement carry the old and the new row. -/
def changes (table : KeyedTable keyOf) : Commit Row Key → List (Change Row)
  | .insert row =>
      match table.lookup (keyOf row) with
      | none => [⟨.insert, row⟩]
      | some _ => []
  | .update row =>
      match table.lookup (keyOf row) with
      | none => []
      | some old => [⟨.updateBefore, old⟩, ⟨.updateAfter, row⟩]
  | .delete key =>
      match table.lookup key with
      | none => []
      | some old => [⟨.delete, old⟩]

def commitAll (table : KeyedTable keyOf) (history : List (Commit Row Key)) : KeyedTable keyOf :=
  history.foldl commit table

/-- The changelog of a history follows the commit order. -/
def changelog (table : KeyedTable keyOf) : List (Commit Row Key) → List (Change Row)
  | [] => []
  | statement :: rest => table.changes statement ++ (table.commit statement).changelog rest

theorem commitAll_append (table : KeyedTable keyOf) (first second : List (Commit Row Key)) :
    table.commitAll (first ++ second) = (table.commitAll first).commitAll second :=
  List.foldl_append

theorem changelog_append (table : KeyedTable keyOf) (first second : List (Commit Row Key)) :
    table.changelog (first ++ second) =
      table.changelog first ++ (table.commitAll first).changelog second := by
  induction first generalizing table with
  | nil => rfl
  | cons statement rest ih =>
      rw [List.cons_append, changelog, changelog, ih, List.append_assoc]
      rfl

/-- A step of the history adds the records of its last statement. -/
theorem changelog_concat (table : KeyedTable keyOf) (history : List (Commit Row Key))
    (statement : Commit Row Key) :
    table.changelog (history ++ [statement]) =
      table.changelog history ++ (table.commitAll history).changes statement := by
  rw [changelog_append, changelog, changelog, List.append_nil]

theorem lookup_commit_insert (table : KeyedTable keyOf) (row : Row) (key : Key)
    (fresh : table.lookup (keyOf row) = none) :
    (table.commit (.insert row)).lookup key =
      if key = keyOf row then some row else table.lookup key := by
  simp [commit, fresh, lookup_upsert]

theorem lookup_commit_update (table : KeyedTable keyOf) (row old : Row) (key : Key)
    (known : table.lookup (keyOf row) = some old) :
    (table.commit (.update row)).lookup key =
      if key = keyOf row then some row else table.lookup key := by
  simp [commit, known, lookup_upsert]

/-- A written row is the current row of its key right after its statement. -/
theorem lookup_of_written (table : KeyedTable keyOf) (statement : Commit Row Key)
    (change : Change Row) (member : change ∈ table.changes statement)
    (written : change.kind = .insert ∨ change.kind = .updateAfter) :
    (table.commit statement).lookup (keyOf change.row) = some change.row := by
  cases statement with
  | insert row =>
      cases found : table.lookup (keyOf row) with
      | some old => simp [changes, found] at member
      | none =>
          have same : change = ⟨.insert, row⟩ := by simpa [changes, found] using member
          subst same
          rw [lookup_commit_insert table row _ found, if_pos rfl]
  | update row =>
      cases found : table.lookup (keyOf row) with
      | none => simp [changes, found] at member
      | some old =>
          have cases : change = ⟨.updateBefore, old⟩ ∨ change = ⟨.updateAfter, row⟩ := by
            simpa [changes, found] using member
          rcases cases with rfl | rfl
          · simp at written
          · rw [lookup_commit_update table row old _ found, if_pos rfl]
  | delete key =>
      cases found : table.lookup key with
      | none => simp [changes, found] at member
      | some old =>
          have same : change = ⟨.delete, old⟩ := by simpa [changes, found] using member
          subst same
          simp at written

/-- Each written version was the current row after some part of the history. -/
theorem exists_current_of_written (table : KeyedTable keyOf) (history : List (Commit Row Key))
    (change : Change Row) (member : change ∈ table.changelog history)
    (written : change.kind = .insert ∨ change.kind = .updateAfter) :
    ∃ count, (table.commitAll (history.take count)).lookup (keyOf change.row) = some change.row := by
  induction history generalizing table with
  | nil => simp [changelog] at member
  | cons statement rest ih =>
      rw [changelog, List.mem_append] at member
      rcases member with now | later
      · exact ⟨1, table.lookup_of_written statement change now written⟩
      · obtain ⟨count, current⟩ := ih _ later
        exact ⟨count + 1, current⟩

end KeyedTable

/-- INSERT INTO a keyed sink SELECT from a source WHERE a condition is true. -/
structure InsertSelect (Time Source Sink Key : Type*) where
  condition : Source → Truth
  select : Time → Source → Sink
  primaryKey : Sink → Key

/-- Processing times are given by the position of a record in the stream. -/
def stampFrom {Time Row : Type*} (clock : Nat → Time) (start : Nat) (changes : List (Change Row)) :
    List (Time × Change Row) :=
  (changes.zipIdx start).map fun entry => (clock entry.2, entry.1)

theorem stampFrom_append {Time Row : Type*} (clock : Nat → Time) (start : Nat)
    (first second : List (Change Row)) :
    stampFrom clock start (first ++ second) =
      stampFrom clock start first ++ stampFrom clock (start + first.length) second := by
  rw [stampFrom, List.zipIdx_append, List.map_append, stampFrom, stampFrom]

@[simp] theorem stampFrom_changes {Time Row : Type*} (clock : Nat → Time) (start : Nat)
    (changes : List (Change Row)) : (stampFrom clock start changes).map Prod.snd = changes := by
  rw [stampFrom, List.map_map]
  exact List.zipIdx_map_fst start changes

namespace InsertSelect
variable {Time Source Sink Key : Type*}

def Selects (statement : InsertSelect Time Source Sink Key) (row : Source) : Prop :=
  statement.condition row = .true

instance (statement : InsertSelect Time Source Sink Key) (row : Source) :
    Decidable (statement.Selects row) := inferInstanceAs (Decidable (_ = _))

/-- The same statement reads its source through a projection. -/
def comap {Row : Type*} (statement : InsertSelect Time Source Sink Key) (project : Row → Source) :
    InsertSelect Time Row Sink Key where
  condition row := statement.condition (project row)
  select now row := statement.select now (project row)
  primaryKey := statement.primaryKey

/-- The sink upserts on +I and +U, deletes on -D, and can ignore -U. -/
def sinkOp (statement : InsertSelect Time Source Sink Key) (ignoreUpdateBefore : Bool)
    (now : Time) (change : Change Source) : Option (TableOp Sink Key) :=
  if statement.Selects change.row then
    let row := statement.select now change.row
    match change.kind with
    | .insert => some (.upsert row)
    | .updateAfter => some (.upsert row)
    | .updateBefore =>
        if ignoreUpdateBefore then none else some (.delete (statement.primaryKey row))
    | .delete => some (.delete (statement.primaryKey row))
  else none

def sinkOps (statement : InsertSelect Time Source Sink Key) (ignoreUpdateBefore : Bool)
    (records : List (Time × Change Source)) : List (TableOp Sink Key) :=
  records.filterMap fun record => statement.sinkOp ignoreUpdateBefore record.1 record.2

variable [DecidableEq Key]

/-- The sink table receives a stream of timed records. -/
def deliver (statement : InsertSelect Time Source Sink Key) (ignoreUpdateBefore : Bool)
    (table : KeyedTable statement.primaryKey) (records : List (Time × Change Source)) :
    KeyedTable statement.primaryKey :=
  table.applyAll (statement.sinkOps ignoreUpdateBefore records)

theorem deliver_append (statement : InsertSelect Time Source Sink Key) (ignoreUpdateBefore : Bool)
    (table : KeyedTable statement.primaryKey) (first second : List (Time × Change Source)) :
    statement.deliver ignoreUpdateBefore table (first ++ second) =
      statement.deliver ignoreUpdateBefore
        (statement.deliver ignoreUpdateBefore table first) second := by
  rw [deliver, sinkOps, List.filterMap_append, KeyedTable.applyAll_append]
  rfl

theorem deliver_cons (statement : InsertSelect Time Source Sink Key) (ignoreUpdateBefore : Bool)
    (table : KeyedTable statement.primaryKey) (record : Time × Change Source)
    (rest : List (Time × Change Source)) :
    statement.deliver ignoreUpdateBefore table (record :: rest) =
      statement.deliver ignoreUpdateBefore
        (statement.deliver ignoreUpdateBefore table [record]) rest :=
  statement.deliver_append ignoreUpdateBefore table [record] rest

@[simp] theorem deliver_nil (statement : InsertSelect Time Source Sink Key)
    (ignoreUpdateBefore : Bool) (table : KeyedTable statement.primaryKey) :
    statement.deliver ignoreUpdateBefore table [] = table := rfl

/-- A sink inside a larger state sees its own part of the records, in their order of arrival. -/
theorem foldl_own {State Arriving : Type*} (statement : InsertSelect Time Source Sink Key)
    (ignoreUpdateBefore : Bool) (table : State → KeyedTable statement.primaryKey)
    (step : State → Arriving → State) (own : Arriving → Option (Time × Change Source))
    (reached : ∀ state record change, own record = some change →
      table (step state record) = statement.deliver ignoreUpdateBefore (table state) [change])
    (passed : ∀ state record, own record = none → table (step state record) = table state)
    (state : State) (records : List Arriving) :
    table (records.foldl step state) =
      statement.deliver ignoreUpdateBefore (table state) (records.filterMap own) := by
  induction records generalizing state with
  | nil => rfl
  | cons record rest ih =>
      rw [List.foldl_cons, ih]
      cases arrived : own record with
      | none => rw [List.filterMap_cons_none arrived, passed state record arrived]
      | some change =>
          rw [List.filterMap_cons_some arrived, reached state record change arrived]
          exact (statement.deliver_cons ignoreUpdateBefore _ change _).symm

/-- A rejected record leaves the sink unchanged. -/
theorem deliver_of_not_selects (statement : InsertSelect Time Source Sink Key)
    (ignoreUpdateBefore : Bool) (table : KeyedTable statement.primaryKey) (now : Time)
    (change : Change Source) (rejected : ¬ statement.Selects change.row) :
    statement.deliver ignoreUpdateBefore table [(now, change)] = table := by
  simp [deliver, sinkOps, sinkOp, rejected]

/-- A selected +I or +U record upserts the selected row. -/
theorem deliver_written (statement : InsertSelect Time Source Sink Key)
    (ignoreUpdateBefore : Bool) (table : KeyedTable statement.primaryKey) (now : Time)
    (change : Change Source) (selected : statement.Selects change.row)
    (written : change.kind = .insert ∨ change.kind = .updateAfter) :
    statement.deliver ignoreUpdateBefore table [(now, change)] =
      table.upsert (statement.select now change.row) := by
  rcases written with kind | kind <;>
    simp [deliver, sinkOps, sinkOp, selected, kind, KeyedTable.applyAll, KeyedTable.apply]

/-- A selected -D record deletes the key of the selected row. -/
theorem deliver_deleted (statement : InsertSelect Time Source Sink Key)
    (ignoreUpdateBefore : Bool) (table : KeyedTable statement.primaryKey) (now : Time)
    (row : Source) (selected : statement.Selects row) :
    statement.deliver ignoreUpdateBefore table [(now, ⟨.delete, row⟩)] =
      table.delete (statement.primaryKey (statement.select now row)) := by
  simp [deliver, sinkOps, sinkOp, selected, KeyedTable.applyAll, KeyedTable.apply]

/-- The default sink drops each -U record. -/
theorem deliver_ignored (statement : InsertSelect Time Source Sink Key)
    (table : KeyedTable statement.primaryKey) (now : Time) (row : Source) :
    statement.deliver true table [(now, ⟨.updateBefore, row⟩)] = table := by
  simp [deliver, sinkOps, sinkOp]

end InsertSelect

end OdsPipeline.Library
