import Mathlib.Data.List.Dedup
import OdsPipeline.Library.Load

/-
This file counts the rows that two complementary statements keep of one load.
-/

namespace OdsPipeline.Library

namespace KeyedTable
variable {Row Key : Type*} {keyOf : Row → Key} [DecidableEq Key]

/-- An upserted list leaves one row for each of its keys. -/
theorem keys_upsertAll (rows : List Row) :
    (((empty keyOf).upsertAll rows).rows.map keyOf).Perm (rows.map keyOf).dedup := by
  apply (List.perm_ext_iff_of_nodup ((empty keyOf).upsertAll rows).distinct
    (List.nodup_dedup _)).mpr
  intro key
  have found := (empty keyOf).lookup_upsertAll rows key
  rw [lookup_empty, Option.or_none] at found
  rw [List.mem_dedup, ← not_iff_not]
  calc key ∉ ((empty keyOf).upsertAll rows).rows.map keyOf
      ↔ ((empty keyOf).upsertAll rows).lookup key = none := by
        rw [lookup_eq_none_iff, List.mem_map]
        push Not
        rfl
    _ ↔ key ∉ rows.map keyOf := by
        rw [found, List.getLast?_eq_none_iff, List.filter_eq_nil_iff, List.mem_map]
        push Not
        exact forall₂_congr fun row _ => not_congr decide_eq_true_iff

theorem length_upsertAll (rows : List Row) :
    ((empty keyOf).upsertAll rows).rows.length = (rows.map keyOf).dedup.length := by
  rw [← (keys_upsertAll rows).length_eq, List.length_map]

theorem length_upsertAll_le (rows : List Row) :
    ((empty keyOf).upsertAll rows).rows.length ≤ rows.length := by
  rw [length_upsertAll, ← rows.length_map keyOf]
  exact (List.dedup_sublist _).length_le

/-- No row is lost exactly when the keys are distinct. -/
theorem length_upsertAll_eq_iff (rows : List Row) :
    ((empty keyOf).upsertAll rows).rows.length = rows.length ↔ (rows.map keyOf).Nodup := by
  rw [length_upsertAll, ← rows.length_map keyOf, ← List.dedup_eq_self]
  constructor
  · intro same
    exact (List.dedup_sublist _).eq_of_length same
  · intro same
    rw [same]

end KeyedTable

/-- Each row of a list has one of the three truth values. -/
theorem length_by_truth {Row : Type*} (condition : Row → Truth) (rows : List Row) :
    (rows.filter fun row => condition row = .true).length +
        (rows.filter fun row => condition row = .false).length +
        (rows.filter fun row => condition row = .unknown).length = rows.length := by
  induction rows with
  | nil => rfl
  | cons row rest ih =>
      rw [List.length_cons, ← ih]
      cases value : condition row <;> simp [value] <;> omega

namespace InsertSelect
variable {Time Source Sink Other Key OtherKey : Type*}

/-- The rows that neither a statement nor its complement selects. -/
def unseen (statement : InsertSelect Time Source Sink Key) (rows : List Source) : List Source :=
  rows.filter fun row => statement.condition row = .unknown

/-- A statement and its complement write each seen row once. -/
theorem length_written_add (kept : InsertSelect Time Source Sink Key)
    (rejected : InsertSelect Time Source Other OtherKey)
    (complementary : ∀ row, rejected.condition row = (kept.condition row).not)
    (records : List (Time × Source)) :
    (kept.written records).length + (rejected.written records).length +
      (kept.unseen (records.map Prod.snd)).length = records.length := by
  have refused : (rejected.written records).length =
      (records.filter fun record => kept.condition record.2 = .false).length := by
    rw [written, List.length_map]
    congr 2
    funext record
    rw [decide_eq_decide, Selects, complementary, Truth.not_eq_true_iff]
  have passed : (kept.unseen (records.map Prod.snd)).length =
      (records.filter fun record => kept.condition record.2 = .unknown).length := by
    rw [unseen, List.filter_map, List.length_map]
    rfl
  rw [refused, passed, written, List.length_map]
  exact length_by_truth (fun record => kept.condition record.2) records

variable [DecidableEq Key] [DecidableEq OtherKey]

theorem length_load_le (statement : InsertSelect Time Source Sink Key)
    (records : List (Time × Source)) :
    (statement.load (KeyedTable.empty _) records).rows.length ≤
      (statement.written records).length := by
  rw [load_eq_upsertAll]
  exact KeyedTable.length_upsertAll_le _

theorem length_load_eq_iff (statement : InsertSelect Time Source Sink Key)
    (records : List (Time × Source)) :
    (statement.load (KeyedTable.empty _) records).rows.length =
        (statement.written records).length ↔
      ((statement.written records).map statement.primaryKey).Nodup := by
  rw [load_eq_upsertAll]
  exact KeyedTable.length_upsertAll_eq_iff _

/-- Written rows with distinct keys all stay. -/
theorem map_load_of_distinct {Data : Type*} (statement : InsertSelect Time Source Sink Key)
    (data : Sink → Data) (transform : Source → Data)
    (columns : ∀ now row, data (statement.select now row) = transform row)
    (records : List (Time × Source))
    (distinct : ((statement.written records).map statement.primaryKey).Nodup) :
    (statement.load (KeyedTable.empty _) records).rows.map data =
      ((records.map Prod.snd).filter statement.passes).map transform := by
  rw [load_eq_upsertAll, KeyedTable.rows_upsertAll_of_distinct _ distinct,
    statement.map_written data transform columns]

/-- Two complementary statements lose no seen row exactly when neither writes a key twice. -/
theorem length_loads_eq_iff (kept : InsertSelect Time Source Sink Key)
    (rejected : InsertSelect Time Source Other OtherKey)
    (complementary : ∀ row, rejected.condition row = (kept.condition row).not)
    (records : List (Time × Source)) :
    (kept.load (KeyedTable.empty _) records).rows.length +
        (rejected.load (KeyedTable.empty _) records).rows.length +
        (kept.unseen (records.map Prod.snd)).length = records.length ↔
      ((kept.written records).map kept.primaryKey).Nodup ∧
        ((rejected.written records).map rejected.primaryKey).Nodup := by
  have split := kept.length_written_add rejected complementary records
  have fewKept := kept.length_load_le records
  have fewRejected := rejected.length_load_le records
  rw [← kept.length_load_eq_iff, ← rejected.length_load_eq_iff]
  omega

end InsertSelect

end OdsPipeline.Library
