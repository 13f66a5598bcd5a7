import OdsPipeline.Library.Load

/-
This file compares repeated loads of one source table.
-/

namespace OdsPipeline.Library

/-- Each run reads every row of one source table once, and later runs process at later times. -/
structure Reruns {Row Key : Type*} {keyOf : Row → Key} (Time : Type*) [LT Time]
    (source : KeyedTable keyOf) where
  first : List (Time × Row)
  rest : List (List (Time × Row))
  reads : ∀ run ∈ first :: rest, (run.map Prod.snd).Perm source.rows
  later : (first :: rest).Pairwise fun earlier next =>
    ∀ old ∈ earlier, ∀ new ∈ next, old.1 < new.1

namespace KeyedTable
variable {Row Key : Type*} {keyOf : Row → Key} [DecidableEq Key]

theorem mem_upsertAll (table : KeyedTable keyOf) (rows : List Row) (row : Row)
    (member : row ∈ (table.upsertAll rows).rows) : row ∈ table.rows ∨ row ∈ rows := by
  induction rows using List.reverseRecOn with
  | nil => exact .inl member
  | append_singleton rows last ih =>
      rw [upsertAll_append] at member
      rcases (table.upsertAll rows).mem_upsert last row member with old | rfl
      · exact (ih old).imp_right (List.mem_append_left _)
      · exact .inr (by simp)

end KeyedTable

/-- Rows with distinct keys have at most one row at a key, in any order. -/
theorem getLast?_filter_of_perm {Row Key : Type*} [DecidableEq Key] (keyOf : Row → Key)
    {first second : List Row} (perm : first.Perm second) (distinct : (first.map keyOf).Nodup)
    (key : Key) :
    (first.filter fun row => keyOf row = key).getLast? =
      (second.filter fun row => keyOf row = key).getLast? := by
  have same := perm.filter fun row => decide (keyOf row = key)
  cases found : (first.filter fun row => keyOf row = key).getLast? with
  | none =>
      rw [List.getLast?_eq_none_iff] at found
      rw [found, List.nil_perm] at same
      rw [same, List.getLast?_nil]
  | some row =>
      have member := List.mem_of_getLast? found
      cases other : (second.filter fun row => keyOf row = key).getLast? with
      | none =>
          rw [List.getLast?_eq_none_iff] at other
          rw [same.mem_iff, other] at member
          simp at member
      | some last =>
          have inside := same.mem_iff.mpr (List.mem_of_getLast? other)
          rw [List.mem_filter, decide_eq_true_eq] at member inside
          rw [List.inj_on_of_nodup_map distinct member.1 inside.1 (member.2.trans inside.2.symm)]

namespace InsertSelect
variable {Time Source Sink Key Data : Type*} [DecidableEq Key]

/-- The last selected row at a sink key decides the data at this key. -/
def lastRead (statement : InsertSelect Time Source Sink Key) (dataKey : Data → Key)
    (transform : Source → Data) (rows : List Source) (key : Key) : Option Data :=
  (((rows.filter statement.passes).map transform).filter fun data => dataKey data = key).getLast?

/-- The statement keeps its transformed columns and its key in one record of data. -/
structure KeepsData (statement : InsertSelect Time Source Sink Key) (data : Sink → Data)
    (dataKey : Data → Key) (transform : Source → Data) : Prop where
  sameKey : ∀ row, dataKey (data row) = statement.primaryKey row
  columns : ∀ now row, data (statement.select now row) = transform row

section Data
variable {statement : InsertSelect Time Source Sink Key} {data : Sink → Data}
  {dataKey : Data → Key} {transform : Source → Data}

theorem lookup_load (keeps : statement.KeepsData data dataKey transform)
    (table : KeyedTable statement.primaryKey) (records : List (Time × Source)) (key : Key) :
    ((statement.load table records).lookup key).map data =
      (statement.lastRead dataKey transform (records.map Prod.snd) key).or
        ((table.lookup key).map data) := by
  rw [load_eq_upsertAll, KeyedTable.lookup_upsertAll, lastRead,
    ← statement.map_written data transform keeps.columns, List.filter_map, List.getLast?_map,
    Option.map_or]
  simp only [Function.comp_def, keeps.sameKey]

theorem data_perm_iff (keeps : statement.KeepsData data dataKey transform)
    (first second : KeyedTable statement.primaryKey) :
    (first.rows.map data).Perm (second.rows.map data) ↔
      ∀ key, (first.lookup key).map data = (second.lookup key).map data := by
  have projected := KeyedTable.perm_iff_lookup (first.project data dataKey keeps.sameKey)
    (second.project data dataKey keeps.sameKey)
  simp only [KeyedTable.lookup_project] at projected
  exact projected

/-- One more run reads the whole source again. -/
theorem lookup_load_concat (keeps : statement.KeepsData data dataKey transform)
    (table : KeyedTable statement.primaryKey) (runs : List (List (Time × Source)))
    (run : List (Time × Source)) (key : Key) :
    ((statement.load table (runs ++ [run]).flatten).lookup key).map data =
      (statement.lastRead dataKey transform (run.map Prod.snd) key).or
        (((statement.load table runs.flatten).lookup key).map data) := by
  rw [List.flatten_append, List.flatten_singleton, load_append, lookup_load keeps]

/-- Two readings of the same rows agree on the keys without a selected row. -/
theorem lastRead_eq_none_of_perm (statement : InsertSelect Time Source Sink Key)
    (dataKey : Data → Key) (transform : Source → Data) {first second : List Source}
    (perm : first.Perm second) (key : Key)
    (absent : statement.lastRead dataKey transform first key = none) :
    statement.lastRead dataKey transform second key = none := by
  rw [lastRead, List.getLast?_eq_none_iff] at absent ⊢
  have same := (((perm.filter statement.passes).map transform).filter
    fun data => decide (dataKey data = key))
  rw [absent, List.nil_perm] at same
  exact same

/-- Two readings in the same order, or of rows with distinct keys, agree on every key. -/
theorem lastRead_eq_of_perm (statement : InsertSelect Time Source Sink Key)
    (dataKey : Data → Key) (transform : Source → Data) {first second : List Source}
    (perm : first.Perm second) (distinct : (first.map fun row => dataKey (transform row)).Nodup)
    (key : Key) :
    statement.lastRead dataKey transform first key =
      statement.lastRead dataKey transform second key := by
  refine getLast?_filter_of_perm dataKey ((perm.filter statement.passes).map transform) ?_ key
  rw [List.map_map]
  exact (List.filter_sublist.map _).nodup distinct

/-- Reruns change no data exactly when each run reads the same last row at each key. -/
theorem reload_perm_iff [LT Time] {SourceKey : Type*} {keyOf : Source → SourceKey}
    {source : KeyedTable keyOf} (keeps : statement.KeepsData data dataKey transform)
    (runs : Reruns Time source) :
    (∀ count, ((statement.load (KeyedTable.empty _)
        (runs.first :: runs.rest.take count).flatten).rows.map data).Perm
      ((statement.load (KeyedTable.empty _) runs.first).rows.map data)) ↔
      ∀ run ∈ runs.rest, ∀ key,
        statement.lastRead dataKey transform (run.map Prod.snd) key =
          statement.lastRead dataKey transform (runs.first.map Prod.snd) key := by
  have start (key : Key) :
      ((statement.load (KeyedTable.empty _) runs.first).lookup key).map data =
        statement.lastRead dataKey transform (runs.first.map Prod.snd) key := by
    rw [lookup_load keeps, KeyedTable.lookup_empty, Option.map_none, Option.or_none]
  have extend (count : Nat) (run : List (Time × Source)) (found : runs.rest[count]? = some run) :
      runs.first :: runs.rest.take (count + 1) = runs.first :: runs.rest.take count ++ [run] := by
    rw [List.take_add_one, found, Option.toList_some]
    rfl
  simp only [data_perm_iff keeps, start]
  constructor
  · intro same run member key
    obtain ⟨count, found⟩ := List.getElem?_of_mem member
    have next := same (count + 1) key
    rw [extend count run found, lookup_load_concat keeps, same count key] at next
    cases read : statement.lastRead dataKey transform (run.map Prod.snd) key with
    | some last => simpa [read] using next
    | none =>
        have perm := (runs.reads run (List.mem_cons_of_mem _ member)).trans
          (runs.reads runs.first List.mem_cons_self).symm
        rw [statement.lastRead_eq_none_of_perm dataKey transform perm key read]
  · intro same count key
    induction count with
    | zero => rw [List.take_zero, List.flatten_singleton, start]
    | succ count ih =>
        cases found : runs.rest[count]? with
        | none =>
            rw [List.take_add_one, found, Option.toList_none, List.append_nil]
            exact ih
        | some run =>
            rw [extend count run found, lookup_load_concat keeps, ih,
              same run (List.mem_of_getElem? found) key, Option.or_self]

end Data

section Times
variable {statement : InsertSelect Time Source Sink Key}

/-- Runs at different times never overwrite each other when the key contains the time. -/
theorem load_runs (timeOf : Key → Time)
    (stamped : ∀ now row, timeOf (statement.primaryKey (statement.select now row)) = now)
    (runs : List (List (Time × Source)))
    (apart : runs.Pairwise fun earlier next => ∀ old ∈ earlier, ∀ new ∈ next, old.1 ≠ new.1) :
    (statement.load (KeyedTable.empty _) runs.flatten).rows =
      runs.flatMap fun run => (statement.load (KeyedTable.empty _) run).rows := by
  have timed (records : List (Time × Source)) (row : Sink)
      (member : row ∈ statement.written records) :
      ∃ record ∈ records, timeOf (statement.primaryKey row) = record.1 := by
    obtain ⟨record, selected, rfl⟩ := List.mem_map.mp member
    exact ⟨record, List.mem_of_mem_filter selected, stamped record.1 record.2⟩
  induction runs using List.reverseRecOn with
  | nil => rfl
  | append_singleton runs run ih =>
      rw [List.pairwise_append] at apart
      rw [List.flatMap_append, List.flatMap_singleton, ← ih apart.1, List.flatten_append,
        List.flatten_singleton, load_append, load_eq_upsertAll _ _ run, load_eq_upsertAll _ _ run]
      apply KeyedTable.rows_upsertAll_of_disjoint
      intro old stored new written equal
      rw [load_eq_upsertAll] at stored
      rcases KeyedTable.mem_upsertAll _ _ old stored with nothing | before
      · simp at nothing
      · obtain ⟨first, inRuns, firstTime⟩ := timed _ old before
        obtain ⟨second, inRun, secondTime⟩ := timed run new written
        obtain ⟨earlier, member, inside⟩ := List.mem_flatten.mp inRuns
        have different := apart.2.2 earlier member run (by simp) first inside second inRun
        rw [← firstTime, ← secondTime, equal] at different
        exact different rfl

end Times

end InsertSelect

end OdsPipeline.Library
