import OdsPipeline.Library.Mirror

/-
This file follows a keyed table that only receives inserted rows.
-/

namespace OdsPipeline.Library

namespace KeyedTable
variable {Row Key Data : Type*} {keyOf : Row → Key}

/-- A projection that keeps the key keeps the table. -/
def project (table : KeyedTable keyOf) (data : Row → Data) (dataKey : Data → Key)
    (sameKey : ∀ row, dataKey (data row) = keyOf row) : KeyedTable dataKey where
  rows := table.rows.map data
  distinct := by
    rw [List.map_map, show dataKey ∘ data = keyOf from funext sameKey]
    exact table.distinct

variable [DecidableEq Key]

theorem lookup_project (table : KeyedTable keyOf) (data : Row → Data) (dataKey : Data → Key)
    (sameKey : ∀ row, dataKey (data row) = keyOf row) (key : Key) :
    (table.project data dataKey sameKey).lookup key = (table.lookup key).map data := by
  rw [lookup, project, List.find?_map, lookup]
  congr 2
  funext row
  simp [sameKey]

/-- A table upserts a list of rows in order. -/
def upsertAll (table : KeyedTable keyOf) (rows : List Row) : KeyedTable keyOf :=
  rows.foldl upsert table

theorem upsertAll_append (table : KeyedTable keyOf) (first second : List Row) :
    table.upsertAll (first ++ second) = (table.upsertAll first).upsertAll second :=
  List.foldl_append

theorem upsertAll_eq_applyAll (table : KeyedTable keyOf) (rows : List Row) :
    table.upsertAll rows = table.applyAll (rows.map .upsert) := by
  rw [applyAll, List.foldl_map]
  rfl

/-- The last row with a key stays at this key. -/
theorem lookup_upsertAll (table : KeyedTable keyOf) (rows : List Row) (key : Key) :
    (table.upsertAll rows).lookup key =
      ((rows.filter fun row => keyOf row = key).getLast?).or (table.lookup key) := by
  have writes : ((rows.map TableOp.upsert).filter fun op => op.key keyOf = key).getLast? =
      ((rows.filter fun row => keyOf row = key).getLast?).map .upsert := by
    rw [List.filter_map, List.getLast?_map]
    rfl
  rw [upsertAll_eq_applyAll, lookup_applyAll, writes]
  cases (rows.filter fun row => keyOf row = key).getLast? <;> rfl

/-- A delete of an absent key changes nothing. -/
theorem rows_delete_of_absent (table : KeyedTable keyOf) (key : Key)
    (absent : ∀ row ∈ table.rows, keyOf row ≠ key) : (table.delete key).rows = table.rows := by
  rw [delete, List.filter_eq_self]
  intro row member
  exact decide_eq_true (absent row member)

/-- Rows with other keys leave the stored rows alone. -/
theorem rows_upsertAll_of_disjoint (table : KeyedTable keyOf) (rows : List Row)
    (disjoint : ∀ old ∈ table.rows, ∀ new ∈ rows, keyOf old ≠ keyOf new) :
    (table.upsertAll rows).rows = table.rows ++ ((empty keyOf).upsertAll rows).rows := by
  induction rows using List.reverseRecOn with
  | nil => exact (List.append_nil _).symm
  | append_singleton rows row ih =>
      have earlier := ih fun old stored new member =>
        disjoint old stored new (List.mem_append_left _ member)
      have other : table.rows.filter (fun old => keyOf old ≠ keyOf row) = table.rows := by
        rw [List.filter_eq_self]
        intro old stored
        exact decide_eq_true (disjoint old stored row (by simp))
      rw [upsertAll_append, upsertAll_append]
      change ((table.upsertAll rows).rows.filter fun old => keyOf old ≠ keyOf row) ++ [row] =
        table.rows ++ ((((empty keyOf).upsertAll rows).rows.filter fun old =>
          keyOf old ≠ keyOf row) ++ [row])
      rw [earlier, List.filter_append, other, List.append_assoc]

/-- Rows with distinct keys all stay. -/
theorem rows_upsertAll_of_distinct (rows : List Row) (distinct : (rows.map keyOf).Nodup) :
    ((empty keyOf).upsertAll rows).rows = rows := by
  induction rows using List.reverseRecOn with
  | nil => rfl
  | append_singleton rows row ih =>
      rw [List.map_append, List.nodup_append'] at distinct
      have earlier := ih distinct.1
      rw [upsertAll_append]
      change (((empty keyOf).upsertAll rows).delete (keyOf row)).rows ++ [row] = _
      rw [rows_delete_of_absent, earlier]
      intro old stored same
      rw [earlier] at stored
      exact distinct.2.2 (List.mem_map_of_mem stored) (by simp [same])

/-- A test of the keys can be made before the rows are stored. -/
theorem rows_upsertAll_filter (rows : List Row) (keep : Key → Bool) :
    ((empty keyOf).upsertAll rows).rows.filter (fun row => keep (keyOf row)) =
      ((empty keyOf).upsertAll (rows.filter fun row => keep (keyOf row))).rows := by
  induction rows using List.reverseRecOn with
  | nil => rfl
  | append_singleton rows row ih =>
      have others : (((empty keyOf).upsertAll rows).rows.filter fun old => keyOf old ≠ keyOf row).filter
          (fun old => keep (keyOf old)) = ((empty keyOf).upsertAll (rows.filter fun row =>
            keep (keyOf row))).rows.filter fun old => keyOf old ≠ keyOf row := by
        rw [List.filter_comm, ih]
      rw [upsertAll_append, List.filter_append, upsertAll_append]
      change ((((empty keyOf).upsertAll rows).rows.filter fun old => keyOf old ≠ keyOf row) ++
        [row]).filter _ = _
      rw [List.filter_append, others]
      cases kept : keep (keyOf row) with
      | true =>
          have stays : [row].filter (fun row => keep (keyOf row)) = [row] := by simp [kept]
          rw [stays]
          rfl
      | false =>
          have goes : [row].filter (fun row => keep (keyOf row)) = [] := by simp [kept]
          rw [goes, List.append_nil]
          -- No kept row has the key of a row that is not kept.
          apply List.filter_eq_self.mpr
          intro old stored
          rw [← ih, List.mem_filter] at stored
          apply decide_eq_true
          intro same
          rw [same, kept] at stored
          exact absurd stored.2 (by decide)

/-- An upserted list keeps one row for each of its rows exactly when its keys are distinct. -/
theorem perm_upsertAll_iff (data : Row → Data) (dataKey : Data → Key)
    (sameKey : ∀ row, dataKey (data row) = keyOf row) (rows : List Row) :
    (((empty keyOf).upsertAll rows).rows.map data).Perm (rows.map data) ↔
      ((rows.map data).map dataKey).Nodup := by
  have keys (list : List Row) : (list.map data).map dataKey = list.map keyOf := by
    rw [List.map_map]
    exact List.map_congr_left fun row _ => sameKey row
  constructor
  · intro kept
    rw [← (kept.map dataKey).nodup_iff, keys]
    exact ((empty keyOf).upsertAll rows).distinct
  · intro distinct
    rw [keys] at distinct
    rw [rows_upsertAll_of_distinct rows distinct]

/-- An insert-only history appends exactly the rows that its changelog inserts. -/
theorem changelog_inserts (table : KeyedTable keyOf) (rows : List Row) :
    ∃ added, table.changelog (rows.map .insert) = added.map (⟨.insert, ·⟩) ∧
      (table.commitAll (rows.map .insert)).rows = table.rows ++ added := by
  induction rows generalizing table with
  | nil => exact ⟨[], rfl, (List.append_nil _).symm⟩
  | cons row rest ih =>
      obtain ⟨added, log, stored⟩ := ih (table.commit (.insert row))
      cases found : table.lookup (keyOf row) with
      | some old =>
          have same : table.commit (.insert row) = table := by simp [commit, found]
          refine ⟨added, ?_, ?_⟩
          · simpa [changelog, changes, found] using log
          · rw [same] at stored
            change ((table.commit (.insert row)).commitAll _).rows = _
            rw [same, stored]
      | none =>
          have fresh := (table.lookup_eq_none_iff _).mp found
          have grown : (table.commit (.insert row)).rows = table.rows ++ [row] := by
            simp only [commit, found, Option.isSome_none, Bool.false_eq_true, if_false]
            change (table.delete (keyOf row)).rows ++ [row] = _
            rw [rows_delete_of_absent table _ fresh]
          refine ⟨row :: added, ?_, ?_⟩
          · simpa [changelog, changes, found] using log
          · change ((table.commit (.insert row)).commitAll _).rows = _
            rw [stored, grown, List.append_assoc]
            rfl

end KeyedTable

namespace InsertSelect
variable {Time Source Sink Key : Type*}

/-- The rows that the statement writes for a list of timed source rows. -/
def written (statement : InsertSelect Time Source Sink Key) (records : List (Time × Source)) :
    List Sink :=
  (records.filter fun record => statement.Selects record.2).map fun record =>
    statement.select record.1 record.2

/-- Written rows carry the transformed columns of the selected source rows. -/
theorem map_written {Data : Type*} (statement : InsertSelect Time Source Sink Key)
    (data : Sink → Data) (transform : Source → Data)
    (columns : ∀ now row, data (statement.select now row) = transform row)
    (records : List (Time × Source)) :
    (statement.written records).map data =
      ((records.map Prod.snd).filter statement.passes).map transform := by
  rw [written, List.map_map, List.filter_map, List.map_map]
  exact List.map_congr_left fun record _ => columns record.1 record.2

variable [DecidableEq Key]

/-- A load delivers each source row as +I. -/
def load (statement : InsertSelect Time Source Sink Key) (table : KeyedTable statement.primaryKey)
    (records : List (Time × Source)) : KeyedTable statement.primaryKey :=
  statement.deliver true table (records.map fun record => (record.1, ⟨.insert, record.2⟩))

theorem load_eq_upsertAll (statement : InsertSelect Time Source Sink Key)
    (table : KeyedTable statement.primaryKey) (records : List (Time × Source)) :
    statement.load table records = table.upsertAll (statement.written records) := by
  induction records generalizing table with
  | nil => rfl
  | cons record rest ih =>
      rw [load, List.map_cons, deliver_cons]
      change statement.load _ rest = _
      rw [ih]
      by_cases selected : statement.Selects record.2
      · rw [deliver_written statement true table record.1 ⟨.insert, record.2⟩ selected (.inl rfl)]
        simp [written, selected, KeyedTable.upsertAll]
      · rw [deliver_of_not_selects statement true table record.1 ⟨.insert, record.2⟩ selected]
        simp [written, selected]

theorem load_append (statement : InsertSelect Time Source Sink Key)
    (table : KeyedTable statement.primaryKey) (first second : List (Time × Source)) :
    statement.load table (first ++ second) = statement.load (statement.load table first) second := by
  rw [load, List.map_append, deliver_append]
  rfl

/-- The rows of an insert-only history have the times of their positions. -/
def timedRows {Row : Type*} (clock : Nat → Time) (rows : List Row) : List (Time × Row) :=
  rows.zipIdx.map fun entry => (clock entry.2, entry.1)

theorem timedRows_rows {Row : Type*} (clock : Nat → Time) (rows : List Row) :
    (timedRows clock rows).map Prod.snd = rows := by
  rw [timedRows, List.map_map]
  exact List.zipIdx_map_fst 0 rows

/-- An insert-only history loads the rows of its source table at their times. -/
theorem afterHistory_timedRows {SourceKey : Type*} [DecidableEq SourceKey]
    (statement : InsertSelect Time Source Sink Key) (keyOf : Source → SourceKey)
    (clock : Nat → Time) (history : List Source) :
    statement.afterHistory true keyOf clock (history.map .insert) =
      statement.load (KeyedTable.empty _)
        (timedRows clock ((KeyedTable.empty keyOf).commitAll (history.map .insert)).rows) := by
  obtain ⟨added, log, stored⟩ := (KeyedTable.empty keyOf).changelog_inserts history
  rw [KeyedTable.empty_rows, List.nil_append] at stored
  rw [afterHistory, log, load, stored, timedRows, stampFrom, List.zipIdx_map, List.map_map,
    List.map_map]
  rfl

/-- An insert-only history loads the rows of its source table. -/
theorem afterHistory_inserts {SourceKey : Type*} [DecidableEq SourceKey]
    (statement : InsertSelect Time Source Sink Key) (keyOf : Source → SourceKey)
    (clock : Nat → Time) (history : List Source) :
    ∃ records : List (Time × Source),
      records.map Prod.snd = ((KeyedTable.empty keyOf).commitAll (history.map .insert)).rows ∧
        statement.afterHistory true keyOf clock (history.map .insert) =
          statement.load (KeyedTable.empty _) records := by
  exact ⟨_, timedRows_rows clock _, statement.afterHistory_timedRows keyOf clock history⟩

/-- An insert-only history keeps one sink row for each selected source row exactly when the
selected rows have distinct sink keys. -/
theorem afterHistory_perm_iff {SourceKey Data : Type*} [DecidableEq SourceKey]
    (statement : InsertSelect Time Source Sink Key) (keyOf : Source → SourceKey)
    (data : Sink → Data) (dataKey : Data → Key) (transform : Source → Data)
    (sameKey : ∀ row, dataKey (data row) = statement.primaryKey row)
    (columns : ∀ now row, data (statement.select now row) = transform row)
    (clock : Nat → Time) (history : List Source) :
    let valid := ((KeyedTable.empty keyOf).commitAll (history.map .insert)).rows.filter
      statement.passes
    ((statement.afterHistory true keyOf clock (history.map .insert)).rows.map data).Perm
        (valid.map transform) ↔
      (valid.map fun row => dataKey (transform row)).Nodup := by
  dsimp only
  obtain ⟨records, stored, loaded⟩ := statement.afterHistory_inserts keyOf clock history
  rw [loaded, load_eq_upsertAll, ← stored, ← statement.map_written data transform columns records,
    KeyedTable.perm_upsertAll_iff data dataKey sameKey, statement.map_written data transform columns,
    List.map_map]
  rfl

/-- Inserted rows that are all selected and have distinct sink keys all arrive. -/
theorem deliver_inserts (statement : InsertSelect Time Source Sink Key)
    (records : List (Time × Change Source))
    (inserts : ∀ record ∈ records, record.2.kind = .insert ∧ statement.Selects record.2.row)
    (distinct : (records.map fun record =>
      statement.primaryKey (statement.select record.1 record.2.row)).Nodup) :
    (statement.deliver true (KeyedTable.empty _) records).rows =
      records.map fun record => statement.select record.1 record.2.row := by
  induction records using List.reverseRecOn with
  | nil => rfl
  | append_singleton records record ih =>
      rw [List.map_append, List.nodup_append'] at distinct
      have earlier := ih (fun other member => inserts other (List.mem_append_left _ member))
        distinct.1
      obtain ⟨inserted, selected⟩ := inserts record (by simp)
      rw [deliver_append, statement.deliver_written true _ record.1 record.2 selected
        (.inl inserted), List.map_append, ← earlier]
      change (KeyedTable.delete _ _).rows ++ _ = _
      rw [KeyedTable.rows_delete_of_absent]
      · rfl
      · intro old stored same
        rw [earlier] at stored
        obtain ⟨other, member, rfl⟩ := List.mem_map.mp stored
        exact distinct.2.2 (List.mem_map_of_mem member) (by simp [same])

/-- Any part of an arrival of distinct valid rows is stored in full. -/
theorem deliver_arrived {Row : Type*} (statement : InsertSelect Time Source Sink Key)
    (toSource : Row → Source) (keyOf : Source → Key)
    (keyed : ∀ now row, statement.primaryKey (statement.select now row) = keyOf row)
    (rows : List Row) (valid : ∀ row ∈ rows, statement.Selects (toSource row))
    (distinct : (rows.map fun row => keyOf (toSource row)).Nodup)
    (arrived : List (Time × Change Source))
    (perm : (arrived.map Prod.snd).Perm (rows.map fun row => ⟨.insert, toSource row⟩))
    (part : List (Time × Change Source)) (inside : part.Sublist arrived) :
    (statement.deliver true (KeyedTable.empty _) part).rows =
      part.map fun record => statement.select record.1 record.2.row := by
  apply statement.deliver_inserts
  · intro record member
    have known := perm.subset (List.mem_map_of_mem (inside.subset member))
    obtain ⟨row, stored, same⟩ := List.mem_map.mp known
    rw [← same]
    exact ⟨rfl, valid row stored⟩
  · simp only [keyed]
    have keys := (perm.map fun change => keyOf change.row).nodup_iff
    rw [List.map_map, List.map_map] at keys
    exact (inside.map _).nodup (keys.mpr distinct)

end InsertSelect

end OdsPipeline.Library
