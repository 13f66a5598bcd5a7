import Mathlib.Data.List.Induction
import Mathlib.Data.List.Nodup
import Mathlib.Data.List.Perm.Basic
import Mathlib.Tactic.TypeStar

namespace OdsPipeline.Library

variable {Row Key : Type*}

/-- A keyed table stores at most one row for each key. -/
structure KeyedTable (keyOf : Row → Key) where
  rows : List Row
  distinct : (rows.map keyOf).Nodup

/-- One write to a keyed table. -/
inductive TableOp (Row Key : Type*) where
  | upsert (row : Row)
  | delete (key : Key)
  deriving DecidableEq, Repr

def TableOp.key (keyOf : Row → Key) : TableOp Row Key → Key
  | .upsert row => keyOf row
  | .delete key => key

/-- The row that an operation leaves at its key. -/
def TableOp.written : TableOp Row Key → Option Row
  | .upsert row => some row
  | .delete _ => none

namespace KeyedTable
variable {keyOf : Row → Key}

def empty (keyOf : Row → Key) : KeyedTable keyOf := ⟨[], by simp⟩

@[simp] theorem empty_rows : (empty keyOf).rows = [] := rfl

theorem nodup_rows (table : KeyedTable keyOf) : table.rows.Nodup := table.distinct.of_map

/-- A part of a keyed table is a keyed table. -/
def filter (table : KeyedTable keyOf) (keep : Row → Bool) : KeyedTable keyOf where
  rows := table.rows.filter keep
  distinct := (List.filter_sublist.map keyOf).nodup table.distinct

/-- The rows that another table stores keep their keys apart. -/
def collect {Stored StoredKey : Type*} (table : KeyedTable keyOf) (store : Row → Option Stored)
    (storedKey : Stored → StoredKey) (embed : StoredKey → Key)
    (sameKey : ∀ row stored, store row = some stored → keyOf row = embed (storedKey stored)) :
    KeyedTable storedKey where
  rows := table.rows.filterMap store
  distinct := by
    have kept : ((table.rows.filterMap store).map storedKey).map embed =
        (table.rows.filter fun row => (store row).isSome).map keyOf := by
      induction table.rows with
      | nil => rfl
      | cons row rest ih =>
          cases stored : store row with
          | none => simpa [stored] using ih
          | some value => simpa [stored, sameKey row value stored] using ih
    apply List.Nodup.of_map embed
    rw [kept]
    exact (List.filter_sublist.map keyOf).nodup table.distinct

variable [DecidableEq Key]

def lookup (table : KeyedTable keyOf) (key : Key) : Option Row :=
  table.rows.find? fun row => keyOf row = key

/-- A delete removes the row at one key. -/
def delete (table : KeyedTable keyOf) (key : Key) : KeyedTable keyOf where
  rows := table.rows.filter fun row => keyOf row ≠ key
  distinct := (List.filter_sublist.map keyOf).nodup table.distinct

/-- An upsert replaces the row with the same key. -/
def upsert (table : KeyedTable keyOf) (row : Row) : KeyedTable keyOf where
  rows := (table.delete (keyOf row)).rows ++ [row]
  distinct := by
    rw [List.map_append, List.nodup_append']
    refine ⟨(table.delete (keyOf row)).distinct, List.nodup_singleton _, ?_⟩
    intro key old new
    obtain ⟨other, member, rfl⟩ := List.mem_map.mp old
    have different : keyOf other ≠ keyOf row := by simpa using (List.mem_filter.mp member).2
    exact different (by simpa using new)

def apply (table : KeyedTable keyOf) : TableOp Row Key → KeyedTable keyOf
  | .upsert row => table.upsert row
  | .delete key => table.delete key

/-- A table applies its operations in order. -/
def applyAll (table : KeyedTable keyOf) (ops : List (TableOp Row Key)) : KeyedTable keyOf :=
  ops.foldl apply table

@[simp] theorem applyAll_nil (table : KeyedTable keyOf) : table.applyAll [] = table := rfl

theorem applyAll_append (table : KeyedTable keyOf) (first second : List (TableOp Row Key)) :
    table.applyAll (first ++ second) = (table.applyAll first).applyAll second :=
  List.foldl_append

@[simp] theorem lookup_empty (key : Key) : (empty keyOf).lookup key = none := rfl

/-- A lookup returns a stored row with the requested key. -/
theorem lookup_eq_some (table : KeyedTable keyOf) (key : Key) (row : Row)
    (found : table.lookup key = some row) : row ∈ table.rows ∧ keyOf row = key :=
  ⟨List.mem_of_find?_eq_some found, by simpa using List.find?_some found⟩

/-- A stored row is the row at its own key. -/
theorem lookup_of_mem (table : KeyedTable keyOf) (row : Row) (member : row ∈ table.rows) :
    table.lookup (keyOf row) = some row := by
  have present : (table.lookup (keyOf row)).isSome := by
    rw [lookup, List.find?_isSome]
    exact ⟨row, member, by simp⟩
  obtain ⟨other, found⟩ := Option.isSome_iff_exists.mp present
  have stored := table.lookup_eq_some _ _ found
  rw [found, List.inj_on_of_nodup_map table.distinct stored.1 member stored.2]

theorem mem_rows_iff (table : KeyedTable keyOf) (row : Row) :
    row ∈ table.rows ↔ table.lookup (keyOf row) = some row :=
  ⟨table.lookup_of_mem row, fun found => (table.lookup_eq_some _ _ found).1⟩

theorem lookup_eq_none_iff (table : KeyedTable keyOf) (key : Key) :
    table.lookup key = none ↔ ∀ row ∈ table.rows, keyOf row ≠ key := by
  simp [lookup, List.find?_eq_none]

theorem lookup_delete (table : KeyedTable keyOf) (key other : Key) :
    (table.delete key).lookup other = if other = key then none else table.lookup other := by
  by_cases equal : other = key
  · rw [if_pos equal, lookup_eq_none_iff]
    intro row member
    rw [equal]
    simpa using (List.mem_filter.mp member).2
  · rw [if_neg equal, lookup, lookup, delete, List.find?_filter]
    congr 1
    funext row
    by_cases same : keyOf row = other
    · simp [same, equal]
    · simp [same]

/-- An upsert changes exactly one key. -/
theorem lookup_upsert (table : KeyedTable keyOf) (row : Row) (key : Key) :
    (table.upsert row).lookup key = if key = keyOf row then some row else table.lookup key := by
  have split : (table.upsert row).lookup key =
      ((table.delete (keyOf row)).lookup key).or (if keyOf row = key then some row else none) := by
    simp only [lookup, upsert, List.find?_append, List.find?_singleton, decide_eq_true_eq]
  rw [split, lookup_delete]
  by_cases equal : key = keyOf row
  · simp [equal]
  · simp [equal, Ne.symm equal]

theorem mem_delete (table : KeyedTable keyOf) (key : Key) (row : Row)
    (member : row ∈ (table.delete key).rows) : row ∈ table.rows :=
  List.mem_of_mem_filter member

theorem mem_upsert (table : KeyedTable keyOf) (new row : Row)
    (member : row ∈ (table.upsert new).rows) : row ∈ table.rows ∨ row = new := by
  rcases List.mem_append.mp member with old | same
  · exact .inl (table.mem_delete _ row old)
  · exact .inr (List.mem_singleton.mp same)

theorem lookup_apply (table : KeyedTable keyOf) (op : TableOp Row Key) (key : Key) :
    (table.apply op).lookup key = if key = op.key keyOf then op.written else table.lookup key := by
  cases op with
  | upsert row => exact table.lookup_upsert row key
  | delete other => exact table.lookup_delete other key

/-- The last operation at a key decides the row at this key. -/
theorem lookup_applyAll (table : KeyedTable keyOf) (ops : List (TableOp Row Key)) (key : Key) :
    (table.applyAll ops).lookup key =
      match (ops.filter fun op => op.key keyOf = key).getLast? with
      | none => table.lookup key
      | some op => op.written := by
  induction ops using List.reverseRecOn with
  | nil => rfl
  | append_singleton ops op ih =>
      rw [applyAll_append]
      change ((table.applyAll ops).apply op).lookup key = _
      rw [lookup_apply, ih, List.filter_append]
      by_cases equal : op.key keyOf = key
      · simp [equal]
      · simp [equal, Ne.symm equal]

/-- Two tables store the same rows exactly when they have the same row at every key. -/
theorem perm_iff_lookup (first second : KeyedTable keyOf) :
    first.rows.Perm second.rows ↔ ∀ key, first.lookup key = second.lookup key := by
  rw [List.perm_ext_iff_of_nodup first.nodup_rows second.nodup_rows]
  constructor
  · intro same key
    ext row
    constructor
    · intro found
      obtain ⟨stored, rfl⟩ := first.lookup_eq_some key row found
      exact second.lookup_of_mem row ((same row).mp stored)
    · intro found
      obtain ⟨stored, rfl⟩ := second.lookup_eq_some key row found
      exact first.lookup_of_mem row ((same row).mpr stored)
  · intro agree row
    rw [mem_rows_iff, mem_rows_iff, agree]

end KeyedTable

end OdsPipeline.Library
