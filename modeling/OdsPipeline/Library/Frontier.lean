import OdsPipeline.Library.Restart
import OdsPipeline.Library.Tally

/-
This file follows a sink whose reader goes back in a log that leaves the same at a key each time.
-/

namespace OdsPipeline.Library.InsertSelect

variable {Time Source Sink Key Data : Type*} [DecidableEq Key]
  (statement : InsertSelect Time Source Sink Key) (data : Sink → Data) (dataKey : Data → Key)
  (transform : Source → Data)

/-- All records that touch a key leave the same there. -/
def Steady (log : List (Change Source)) : Prop :=
  ∀ key, ∀ first ∈ log, ∀ second ∈ log, ∀ left ∈ statement.effect dataKey transform key first,
    ∀ right ∈ statement.effect dataKey transform key second, left = right

/-- Wherever the reader is, the sink has the data of one reading up to the furthest record. -/
structure UpTo (log : List (Change Source)) (position furthest : Nat)
    (table : KeyedTable statement.primaryKey) : Prop where
  behind : position ≤ furthest
  inside : furthest ≤ log.length
  stands : ∀ key, (table.lookup key).map data =
    statement.readOnce dataKey transform (log.take furthest) key

section Steps
variable {statement data dataKey transform} {log : List (Change Source)}

theorem Steady.mono {part : List (Change Source)}
    (steady : Steady statement dataKey transform log) (inside : part ⊆ log) :
    Steady statement dataKey transform part :=
  fun key first one second other => steady key first (inside one) second (inside other)

/-- In a steady log each record that touches a key decides what stands there. -/
theorem Steady.lastEffect_eq (steady : Steady statement dataKey transform log) {key : Key}
    {next : Change Source} (member : next ∈ log) {left : Option Data}
    (touches : statement.effect dataKey transform key next = some left) :
    statement.lastEffect dataKey transform log key = some left := by
  have touched : left ∈ log.filterMap (statement.effect dataKey transform key) :=
    List.mem_filterMap.mpr ⟨next, member, touches⟩
  have isLast := List.getLast?_eq_some_getLast (List.ne_nil_of_mem touched)
  obtain ⟨other, inside, decides⟩ := List.mem_filterMap.mp (List.getLast_mem
    (List.ne_nil_of_mem touched))
  rw [lastEffect, isLast, steady key other inside next member _ decides left touches]

theorem upTo_start : UpTo statement data dataKey transform [] 0 0 (KeyedTable.empty _) where
  behind := Nat.le_refl _
  inside := Nat.le_refl _
  stands _ := rfl

variable {position furthest : Nat} {table : KeyedTable statement.primaryKey}

theorem UpTo.grows (upTo : UpTo statement data dataKey transform log position furthest table)
    (more : List (Change Source)) :
    UpTo statement data dataKey transform (log ++ more) position furthest table where
  behind := upTo.behind
  inside := by
    rw [List.length_append]
    exact Nat.le_add_right_of_le upTo.inside
  stands key := by
    rw [List.take_append_of_le_length upTo.inside]
    exact upTo.stands key

theorem UpTo.rewind (upTo : UpTo statement data dataKey transform log position furthest table)
    {earlier : Nat} (back : earlier ≤ position) :
    UpTo statement data dataKey transform log earlier furthest table :=
  { upTo with behind := Nat.le_trans back upTo.behind }

/-- A record before the frontier changes no data, and the next one moves the frontier. -/
theorem UpTo.reads (keeps : statement.KeepsData data dataKey transform)
    (upTo : UpTo statement data dataKey transform log position furthest table)
    (steady : Steady statement dataKey transform (log.take furthest)) (now : Time)
    (next : Change Source) (found : log[position]? = some next) :
    UpTo statement data dataKey transform log (position + 1) (max furthest (position + 1))
      (statement.deliver true table [(now, next)]) := by
  obtain ⟨short, isNext⟩ := List.getElem?_eq_some_iff.mp found
  refine ⟨Nat.le_max_right _ _, Nat.max_le.mpr ⟨upTo.inside, short⟩, ?_⟩
  intro key
  rw [data_deliver_one keeps, upTo.stands]
  rcases Nat.lt_or_ge position furthest with again | first
  · rw [Nat.max_eq_left again]
    have member : next ∈ log.take furthest := by
      rw [← isNext]
      exact List.mem_take_iff_getElem.mpr ⟨position, Nat.lt_min.mpr ⟨again, short⟩, rfl⟩
    cases touches : statement.effect dataKey transform key next with
    | none => rfl
    | some left => rw [Option.getD_some, readOnce, steady.lastEffect_eq member touches,
        Option.getD_some]
  · have here : furthest = position := Nat.le_antisymm first upTo.behind
    have frontier : log.take (position + 1) = log.take position ++ [next] := by
      rw [List.take_add_one, found, Option.toList_some]
    rw [Nat.max_eq_right (by omega), frontier, here, readOnce, readOnce, lastEffect_append,
      lastEffect_singleton]
    cases statement.effect dataKey transform key next <;> rfl

/-- Some records in turn move the frontier to the last one of them, if they go beyond it. -/
theorem UpTo.readsAll (keeps : statement.KeepsData data dataKey transform)
    (records : List (Time × Change Source))
    (upTo : UpTo statement data dataKey transform log position furthest table)
    (steady : Steady statement dataKey transform
      (log.take (max furthest (position + records.length))))
    (found : records.map Prod.snd <+: log.drop position) :
    UpTo statement data dataKey transform log (position + records.length)
      (max furthest (position + records.length)) (statement.deliver true table records) := by
  induction records generalizing position furthest table with
  | nil =>
      rw [List.length_nil, Nat.add_zero, Nat.max_eq_left upTo.behind]
      exact upTo
  | cons record rest ih =>
      obtain ⟨next, later⟩ := cons_prefix_drop_iff.mp found
      have size : position + 1 + rest.length = position + (record :: rest).length := by
        rw [List.length_cons]
        omega
      have bound : max (max furthest (position + 1)) (position + (record :: rest).length) =
          max furthest (position + (record :: rest).length) := by
        rw [← size]
        omega
      have early : Steady statement dataKey transform (log.take furthest) :=
        steady.mono (List.take_subset_take_left log (Nat.le_max_left _ _))
      have last := ih (upTo.reads keeps early record.1 record.2 next)
        (by rw [size, bound]; exact steady) later
      rw [size, bound] at last
      rw [deliver_cons]
      exact last

end Steps

section Inserts
variable {statement data dataKey transform} {rows : List Source}

/-- Inserted rows are steady when the selected ones have distinct sink keys. -/
theorem steady_inserts
    (apart : ((rows.filter statement.passes).map fun row => dataKey (transform row)).Nodup) :
    Steady statement dataKey transform (rows.map (⟨.insert, ·⟩)) := by
  intro key first one second other left leaves right stays
  obtain ⟨row, member, rfl⟩ := List.mem_map.mp one
  obtain ⟨again, inside, rfl⟩ := List.mem_map.mp other
  simp only [effect, Option.mem_def, Option.ite_none_right_eq_some, Option.some.injEq] at leaves stays
  obtain ⟨⟨selected, sameKey⟩, rfl⟩ := leaves
  obtain ⟨⟨alsoSelected, alsoKey⟩, rfl⟩ := stays
  have equal := List.inj_on_of_nodup_map apart
    (List.mem_filter.mpr ⟨member, decide_eq_true selected⟩)
    (List.mem_filter.mpr ⟨inside, decide_eq_true alsoSelected⟩) (sameKey.trans alsoKey.symm)
  rw [equal]

/-- At the frontier of an insert log the sink has exactly the selected rows that were read. -/
theorem UpTo.perm (keeps : statement.KeepsData data dataKey transform) {position furthest : Nat}
    {table : KeyedTable statement.primaryKey}
    (upTo : UpTo statement data dataKey transform (rows.map (⟨.insert, ·⟩)) position furthest table)
    (now : Time) (apart : (((rows.take furthest).filter statement.passes).map fun row =>
      dataKey (transform row)).Nodup) :
    (table.rows.map data).Perm (((rows.take furthest).filter statement.passes).map transform) := by
  let timed := (rows.take furthest).map fun row => (now, row)
  have once : timed.map Prod.snd = rows.take furthest := by
    rw [List.map_map]
    exact List.map_id _
  have keys : (statement.written timed).map statement.primaryKey =
      ((rows.take furthest).filter statement.passes).map fun row => dataKey (transform row) := by
    rw [statement.map_written statement.primaryKey _ keeps.key_select, once]
  have loaded := statement.map_load_of_distinct data transform keeps.columns timed
    (by rw [keys]; exact apart)
  rw [once] at loaded
  rw [← loaded, data_perm_iff keeps]
  intro key
  have read : (timed.map fun record => (record.1, (⟨.insert, record.2⟩ : Change Source))).map
      Prod.snd = (rows.map (⟨.insert, ·⟩)).take furthest := by
    rw [← List.map_take, List.map_map, List.map_map]
    rfl
  rw [load, data_deliver keeps, read]
  exact upTo.stands key

end Inserts

end OdsPipeline.Library.InsertSelect
