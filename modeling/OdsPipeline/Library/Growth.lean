import OdsPipeline.Library.Image

/-
This file inserts fresh rows into a keyed table and follows their image in a sink.
-/

namespace OdsPipeline.Library

section Insert
variable {Row Key : Type*} [DecidableEq Key] {keyOf : Row → Key}

/-- A keyed table is its list of rows. -/
theorem KeyedTable.eq_of_rows {Row Key : Type*} {keyOf : Row → Key} {first second : KeyedTable keyOf}
    (same : first.rows = second.rows) : first = second := by
  cases first
  cases second
  cases same
  rfl

/-- An insert with a new key adds its row behind the stored rows. -/
theorem KeyedTable.rows_commit_insert (table : KeyedTable keyOf) (row : Row)
    (fresh : table.lookup (keyOf row) = none) :
    (table.commit (.insert row)).rows = table.rows ++ [row] := by
  have written : table.commit (.insert row) = table.upsert row := by
    simp [commit, fresh]
  rw [written]
  change (table.delete (keyOf row)).rows ++ [row] = _
  rw [table.rows_delete_of_absent _ ((table.lookup_eq_none_iff _).mp fresh)]

/-- Inserts with distinct new keys add their rows behind the stored rows. -/
theorem KeyedTable.rows_commitAll_inserts (table : KeyedTable keyOf) (rows : List Row)
    (distinct : ((table.rows ++ rows).map keyOf).Nodup) :
    (table.commitAll (rows.map .insert)).rows = table.rows ++ rows := by
  induction rows generalizing table with
  | nil => exact (List.append_nil _).symm
  | cons row rest ih =>
      rw [← List.singleton_append, ← List.append_assoc] at distinct ⊢
      have fresh : table.lookup (keyOf row) = none := by
        rw [lookup_eq_none_iff]
        intro other member same
        rw [List.map_append, List.map_append, List.nodup_append', List.nodup_append'] at distinct
        exact distinct.1.2.2 (List.mem_map_of_mem member) (List.mem_singleton.mpr same)
      have stored := table.rows_commit_insert row fresh
      rw [← stored] at distinct ⊢
      exact ih _ distinct

end Insert

section Image
variable {Row Key SinkKey : Type*} [DecidableEq Key] {keyOf : Row → Key} {passes : Row → Bool}
  {sinkKeyOf : Row → SinkKey}

/-- An insert with a new key breaks an image exactly when it repeats a valid sink key. -/
theorem breaks_insert_iff (source : KeyedTable keyOf) (row : Row)
    (fresh : source.lookup (keyOf row) = none)
    (apart : ((source.rows.filter passes).map sinkKeyOf).Nodup) :
    ¬ Breaks passes sinkKeyOf source (.insert row) ↔
      (((source.rows ++ [row]).filter passes).map sinkKeyOf).Nodup := by
  rw [List.filter_append, List.map_append, List.nodup_append']
  constructor
  · intro sound
    refine ⟨apart, ?_, ?_⟩
    · exact (List.filter_sublist.map sinkKeyOf).nodup (List.nodup_singleton _)
    · intro key before after
      obtain ⟨other, inside, rfl⟩ := List.mem_map.mp before
      obtain ⟨new, last, same⟩ := List.mem_map.mp after
      obtain ⟨stored, otherValid⟩ := List.mem_filter.mp inside
      obtain ⟨isNew, valid⟩ := List.mem_filter.mp last
      cases List.mem_singleton.mp isNew
      exact sound (.inserts row other fresh valid stored otherValid same.symm)
  · rintro ⟨-, -, disjoint⟩ broken
    cases broken with
    | inserts _ other _ valid stored otherValid taken =>
        apply disjoint (List.mem_map_of_mem (List.mem_filter.mpr ⟨stored, otherValid⟩))
        rw [taken, List.filter_cons_of_pos valid, List.filter_nil]
        exact List.mem_singleton.mpr rfl

/-- Inserts with distinct new keys break an image exactly when a valid sink key repeats. -/
theorem neverBreaks_inserts_iff (history : List (Commit Row Key)) (rows : List Row)
    (sound : NeverBreaks passes sinkKeyOf keyOf history) (source : KeyedTable keyOf)
    (settled : source = (KeyedTable.empty keyOf).commitAll history)
    (apart : ((source.rows.filter passes).map sinkKeyOf).Nodup)
    (distinct : ((source.rows ++ rows).map keyOf).Nodup) :
    NeverBreaks passes sinkKeyOf keyOf (history ++ rows.map .insert) ↔
      (((source.rows ++ rows).filter passes).map sinkKeyOf).Nodup := by
  induction rows using List.reverseRecOn with
  | nil =>
      rw [List.map_nil, List.append_nil, List.append_nil]
      exact iff_of_true sound apart
  | append_singleton rows row ih =>
      rw [← List.append_assoc] at distinct ⊢
      have earlier := distinct
      rw [List.map_append, List.nodup_append'] at earlier
      have grown := source.rows_commitAll_inserts rows earlier.1
      have fresh : (source.commitAll (rows.map .insert)).lookup (keyOf row) = none := by
        rw [KeyedTable.lookup_eq_none_iff, grown]
        intro other member same
        exact earlier.2.2 (List.mem_map_of_mem member) (List.mem_singleton.mpr same)
      rw [List.map_append, List.map_singleton, ← List.append_assoc, neverBreaks_concat_iff,
        ih earlier.1, KeyedTable.commitAll_append, ← settled]
      constructor
      · rintro ⟨before, last⟩
        rw [← grown] at before ⊢
        exact (breaks_insert_iff _ row fresh before).mp last
      · intro after
        have before := after
        rw [List.filter_append, List.map_append] at before
        refine ⟨before.of_append_left, ?_⟩
        rw [breaks_insert_iff _ row fresh (by rw [grown]; exact before.of_append_left), grown]
        exact after

end Image

end OdsPipeline.Library
