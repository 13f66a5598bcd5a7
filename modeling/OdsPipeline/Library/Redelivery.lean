import OdsPipeline.Library.Reload
import OdsPipeline.Library.Survival

/-
This file compares a changelog with the same changelog after its end is delivered again.
-/

namespace OdsPipeline.Library

namespace InsertSelect
variable {Time Source Sink Key Data : Type*}

/-- The transformed columns decide the key of a written row. -/
theorem KeepsData.key_select {statement : InsertSelect Time Source Sink Key} {data : Sink → Data}
    {dataKey : Data → Key} {transform : Source → Data}
    (keeps : statement.KeepsData data dataKey transform) (now : Time) (row : Source) :
    statement.primaryKey (statement.select now row) = dataKey (transform row) := by
  rw [← keeps.sameKey, keeps.columns]

variable [DecidableEq Key]

/-- What one record leaves at a key, and nothing when the record does not touch it. -/
def effect (statement : InsertSelect Time Source Sink Key) (dataKey : Data → Key)
    (transform : Source → Data) (key : Key) (change : Change Source) : Option (Option Data) :=
  if statement.Selects change.row ∧ dataKey (transform change.row) = key then
    match change.kind with
    | .insert => some (some (transform change.row))
    | .updateAfter => some (some (transform change.row))
    | .updateBefore => none
    | .delete => some none
  else none

/-- The last record that touches a key decides what stands there. -/
def lastEffect (statement : InsertSelect Time Source Sink Key) (dataKey : Data → Key)
    (transform : Source → Data) (changes : List (Change Source)) (key : Key) :
    Option (Option Data) :=
  (changes.filterMap (statement.effect dataKey transform key)).getLast?

theorem lastEffect_append (statement : InsertSelect Time Source Sink Key) (dataKey : Data → Key)
    (transform : Source → Data) (first second : List (Change Source)) (key : Key) :
    statement.lastEffect dataKey transform (first ++ second) key =
      (statement.lastEffect dataKey transform second key).or
        (statement.lastEffect dataKey transform first key) := by
  rw [lastEffect, List.filterMap_append, List.getLast?_append]
  rfl

section Data
variable {statement : InsertSelect Time Source Sink Key} {data : Sink → Data}
  {dataKey : Data → Key} {transform : Source → Data}

/-- One record replaces the data at the key that it touches. -/
theorem data_deliver_one (keeps : statement.KeepsData data dataKey transform)
    (table : KeyedTable statement.primaryKey) (now : Time) (change : Change Source) (key : Key) :
    ((statement.deliver true table [(now, change)]).lookup key).map data =
      (statement.effect dataKey transform key change).getD ((table.lookup key).map data) := by
  rw [lookup_deliver_one]
  obtain ⟨kind, row⟩ := change
  simp only [Writes, Retracts, keeps.key_select, effect]
  by_cases touched : statement.Selects row ∧ dataKey (transform row) = key
  · cases kind <;> simp [touched, keeps.columns]
  · simp [touched]

/-- The data at a key are those of the last record that touches the key. -/
theorem data_deliver (keeps : statement.KeepsData data dataKey transform)
    (table : KeyedTable statement.primaryKey) (records : List (Time × Change Source)) (key : Key) :
    ((statement.deliver true table records).lookup key).map data =
      (statement.lastEffect dataKey transform (records.map Prod.snd) key).getD
        ((table.lookup key).map data) := by
  induction records using List.reverseRecOn with
  | nil => rfl
  | append_singleton records record ih =>
      obtain ⟨now, change⟩ := record
      have last : statement.lastEffect dataKey transform [change] key =
          statement.effect dataKey transform key change := by
        unfold lastEffect
        cases touched : statement.effect dataKey transform key change <;> simp [touched]
      rw [deliver_append, data_deliver_one keeps, ih, List.map_append, lastEffect_append,
        List.map_singleton, last]
      cases statement.effect dataKey transform key change <;> rfl

/-- A second delivery of the end of a changelog changes no data, at whatever time it happens. -/
theorem redeliver_perm (keeps : statement.KeepsData data dataKey transform)
    (table : KeyedTable statement.primaryKey) (records again : List (Time × Change Source))
    (recovered : again.map Prod.snd <:+ records.map Prod.snd) :
    ((statement.deliver true (statement.deliver true table records) again).rows.map data).Perm
      ((statement.deliver true table records).rows.map data) := by
  obtain ⟨before, split⟩ := recovered
  rw [data_perm_iff keeps]
  intro key
  rw [data_deliver keeps _ again, data_deliver keeps table records, ← split, lastEffect_append]
  cases statement.lastEffect dataKey transform (again.map Prod.snd) key <;> rfl

end Data

end InsertSelect

end OdsPipeline.Library
