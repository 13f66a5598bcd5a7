import OdsPipeline.Library.Reload

/-
This file compares a sink table with the valid rows of its source by their content.
The primary keys of the two tables need not be the same.
-/

namespace OdsPipeline.Library

variable {Time Row Key Sink SinkKey Data : Type*} {keyOf : Row → Key}

/-- An image holds the transformed row of each valid source row once, and nothing else. -/
def Image (statement : InsertSelect Time Row Sink SinkKey) (data : Sink → Data)
    (transform : Row → Data) (source : KeyedTable keyOf)
    (sink : KeyedTable statement.primaryKey) : Prop :=
  (sink.rows.map data).Perm ((source.rows.filter statement.passes).map transform)

/-- A statement breaks an image when it invalidates a row, when it moves a valid row to another
sink key, or when it gives a newly valid row the sink key of a valid row. -/
inductive Breaks [DecidableEq Key] (passes : Row → Bool) (sinkKeyOf : Row → SinkKey)
    (source : KeyedTable keyOf) : Commit Row Key → Prop
  | invalidates (old new : Row) (found : source.lookup (keyOf new) = some old)
      (wasValid : passes old = true) (fails : passes new = false) :
      Breaks passes sinkKeyOf source (.update new)
  | moves (old new : Row) (found : source.lookup (keyOf new) = some old)
      (wasValid : passes old = true) (valid : passes new = true)
      (moved : sinkKeyOf new ≠ sinkKeyOf old) : Breaks passes sinkKeyOf source (.update new)
  | inserts (new other : Row) (fresh : source.lookup (keyOf new) = none)
      (valid : passes new = true) (stored : other ∈ source.rows) (otherValid : passes other = true)
      (taken : sinkKeyOf other = sinkKeyOf new) : Breaks passes sinkKeyOf source (.insert new)
  | repairs (old new other : Row) (found : source.lookup (keyOf new) = some old)
      (wasInvalid : passes old = false) (valid : passes new = true) (stored : other ∈ source.rows)
      (otherValid : passes other = true) (taken : sinkKeyOf other = sinkKeyOf new) :
      Breaks passes sinkKeyOf source (.update new)

section Tables
variable [DecidableEq Key] (passes : Row → Bool)

/-- A delete takes the valid row of its key out of the valid rows. -/
theorem filter_delete (source : KeyedTable keyOf) (key : Key) :
    (source.delete key).rows.filter passes =
      (source.rows.filter passes).filter fun row => keyOf row ≠ key := by
  rw [KeyedTable.delete, List.filter_comm]

/-- A delete at a key without a valid row keeps the valid rows. -/
theorem filter_delete_of_invalid (source : KeyedTable keyOf) (key : Key)
    (invalid : ∀ row ∈ source.lookup key, passes row = false) :
    (source.delete key).rows.filter passes = source.rows.filter passes := by
  rw [filter_delete, List.filter_eq_self]
  intro row member
  obtain ⟨stored, valid⟩ := List.mem_filter.mp member
  apply decide_eq_true
  rintro rfl
  rw [invalid row (source.lookup_of_mem row stored)] at valid
  cases valid

theorem filter_upsert (source : KeyedTable keyOf) (row : Row) :
    (source.upsert row).rows.filter passes =
      (source.delete (keyOf row)).rows.filter passes ++ [row].filter passes :=
  List.filter_append _ _

end Tables

section Step
variable {statement : InsertSelect Time Row Sink SinkKey} {data : Sink → Data}
  {dataKey : Data → SinkKey} {transform : Row → Data}
variable {source next : KeyedTable keyOf} {sink : KeyedTable statement.primaryKey}

/-- The valid rows of an image have distinct sink keys. -/
theorem Image.distinct (keeps : statement.KeepsData data dataKey transform)
    (image : Image statement data transform source sink) :
    ((source.rows.filter statement.passes).map fun row => dataKey (transform row)).Nodup := by
  have keys := image.map dataKey
  rw [List.map_map, List.map_map] at keys
  apply keys.nodup_iff.mp
  rw [show dataKey ∘ data = statement.primaryKey from funext keeps.sameKey]
  exact sink.distinct

/-- An image has a row at a sink key exactly when its source has a valid row with this key. -/
theorem Image.mem_keys_iff (keeps : statement.KeepsData data dataKey transform)
    (image : Image statement data transform source sink) (key : SinkKey) :
    (∃ row ∈ sink.rows, statement.primaryKey row = key) ↔
      ∃ row ∈ source.rows, statement.passes row = true ∧ dataKey (transform row) = key := by
  have keys : key ∈ (sink.rows.map data).map dataKey ↔ key ∈ ((source.rows.filter
      statement.passes).map transform).map dataKey := (image.map dataKey).mem_iff
  rw [List.map_map, List.map_map, List.mem_map, List.mem_map] at keys
  simpa only [Function.comp_def, keeps.sameKey, List.mem_filter, and_assoc] using keys

/-- A valid row that fails after its update breaks the image. -/
theorem Image.not_of_invalidated [DecidableEq Key]
    (image : Image statement data transform source sink) (old new : Row)
    (found : source.lookup (keyOf new) = some old)
    (wasValid : statement.passes old = true) (fails : statement.passes new = false) :
    ¬ Image statement data transform (source.upsert new) sink := by
  intro after
  obtain ⟨stored, same⟩ := source.lookup_eq_some _ _ found
  have sizes := (image.symm.trans after).length_eq
  rw [List.length_map, List.length_map, filter_upsert,
    List.filter_cons_of_neg (by rw [fails]; decide), List.filter_nil, List.append_nil,
    filter_delete] at sizes
  have fewer :
      ((source.rows.filter statement.passes).filter fun row => keyOf row ≠ keyOf new).length <
      (source.rows.filter statement.passes).length := by
    rw [List.length_filter_lt_length_iff_exists]
    exact ⟨old, List.mem_filter.mpr ⟨stored, wasValid⟩, by simp [same]⟩
  omega

variable [DecidableEq SinkKey]

/-- A newly valid row keeps the image exactly when no valid row has its sink key. -/
theorem Image.append_iff (keeps : statement.KeepsData data dataKey transform)
    (image : Image statement data transform source sink) (now : Time) (row : Row)
    (grown : next.rows.filter statement.passes = source.rows.filter statement.passes ++ [row]) :
    Image statement data transform next (sink.upsert (statement.select now row)) ↔
      ∀ other ∈ source.rows, statement.passes other = true →
        dataKey (transform other) ≠ dataKey (transform row) := by
  constructor
  · intro after other stored valid equal
    have distinct := after.distinct keeps
    rw [grown, List.map_append, List.map_singleton, List.nodup_append'] at distinct
    have inside : dataKey (transform other) ∈ (source.rows.filter statement.passes).map
        fun row => dataKey (transform row) :=
      List.mem_map.mpr ⟨other, List.mem_filter.mpr ⟨stored, valid⟩, rfl⟩
    exact distinct.2.2 inside (List.mem_singleton.mpr equal)
  · intro free
    have absent : ∀ old ∈ sink.rows,
        statement.primaryKey old ≠ statement.primaryKey (statement.select now row) := by
      intro old stored equal
      obtain ⟨other, member, valid, same⟩ := (image.mem_keys_iff keeps _).mp ⟨old, stored, equal⟩
      rw [← keeps.sameKey, keeps.columns] at same
      exact free other member valid same
    rw [Image, grown, List.map_append]
    change ((sink.delete _).rows ++ [_]).map data |>.Perm _
    rw [KeyedTable.rows_delete_of_absent sink _ absent, List.map_append, List.map_singleton,
      keeps.columns]
    exact image.append_right _

variable [DecidableEq Key]

/-- A deleted valid row leaves both tables. -/
theorem Image.remove (keeps : statement.KeepsData data dataKey transform)
    (image : Image statement data transform source sink) (old : Row) (stored : old ∈ source.rows)
    (valid : statement.passes old = true) (key : SinkKey) (same : dataKey (transform old) = key) :
    Image statement data transform (source.delete (keyOf old)) (sink.delete key) := by
  have distinct := image.distinct keeps
  have member : old ∈ source.rows.filter statement.passes := List.mem_filter.mpr ⟨stored, valid⟩
  have sinkSide : (sink.delete key).rows.map data =
      (sink.rows.map data).filter fun value => dataKey value ≠ key := by
    rw [List.filter_map, KeyedTable.delete]
    simp only [Function.comp_def, keeps.sameKey]
  have sourceSide : ((source.delete (keyOf old)).rows.filter statement.passes).map transform =
      ((source.rows.filter statement.passes).map transform).filter fun value =>
        dataKey value ≠ key := by
    rw [filter_delete, List.filter_map]
    congr 1
    apply List.filter_congr
    intro row inside
    apply decide_eq_decide.mpr
    apply not_congr
    constructor
    · intro equal
      rw [← same, List.inj_on_of_nodup_map source.distinct (List.mem_of_mem_filter inside) stored
        equal]
    · intro equal
      rw [List.inj_on_of_nodup_map distinct inside member (equal.trans same.symm)]
  rw [Image, sinkSide, sourceSide]
  exact image.filter _

/-- A valid row that replaces a valid row keeps the image exactly when it keeps the sink key. -/
theorem Image.replace_iff (keeps : statement.KeepsData data dataKey transform)
    (image : Image statement data transform source sink) (now : Time) (old new : Row)
    (found : source.lookup (keyOf new) = some old) (wasValid : statement.passes old = true)
    (valid : statement.passes new = true) :
    Image statement data transform (source.upsert new) (sink.upsert (statement.select now new)) ↔
      dataKey (transform new) = dataKey (transform old) := by
  obtain ⟨stored, same⟩ := source.lookup_eq_some _ _ found
  have written : statement.primaryKey (statement.select now new) = dataKey (transform new) := by
    rw [← keeps.sameKey, keeps.columns]
  constructor
  · intro after
    -- The old sink row stays when the key moves, but no valid row explains it any more.
    by_contra moved
    obtain ⟨ghost, inSink, ghostKey⟩ := (image.mem_keys_iff keeps (dataKey (transform old))).mpr
      ⟨old, stored, wasValid, rfl⟩
    have kept : ghost ∈ (sink.upsert (statement.select now new)).rows := by
      apply List.mem_append_left
      apply List.mem_filter.mpr
      refine ⟨inSink, decide_eq_true ?_⟩
      rw [ghostKey, written]
      exact Ne.symm moved
    obtain ⟨other, member, otherValid, equal⟩ :=
      (after.mem_keys_iff keeps _).mp ⟨ghost, kept, ghostKey⟩
    rcases source.mem_upsert new other member with before | rfl
    · have isOld := List.inj_on_of_nodup_map (image.distinct keeps)
        (List.mem_filter.mpr ⟨before, otherValid⟩) (List.mem_filter.mpr ⟨stored, wasValid⟩) equal
      have atKey := (source.upsert new).lookup_of_mem other member
      rw [isOld, same, KeyedTable.lookup_upsert, if_pos rfl, Option.some.injEq] at atKey
      exact moved (by rw [atKey])
    · exact moved equal
  · intro keptKey
    have removed := image.remove keeps old stored wasValid _ rfl
    rw [same] at removed
    have replaced : (sink.upsert (statement.select now new)).rows =
        (sink.delete (dataKey (transform old))).rows ++ [statement.select now new] := by
      change (sink.delete (statement.primaryKey (statement.select now new))).rows ++ _ = _
      rw [written, keptKey]
    rw [Image, replaced, filter_upsert, List.map_append, List.map_append, List.map_singleton,
      keeps.columns, List.filter_cons_of_pos valid]
    exact removed.append_right _

/-- The changelog of an insert is one +I record, or nothing when the key is taken. -/
theorem Image.insert_iff (keeps : statement.KeepsData data dataKey transform)
    (image : Image statement data transform source sink) (row : Row)
    (records : List (Time × Change Row))
    (same : records.map Prod.snd = source.changes (.insert row)) :
    Image statement data transform (source.commit (.insert row))
        (statement.deliver true sink records) ↔
      ¬ Breaks statement.passes (fun row => dataKey (transform row)) source (.insert row) := by
  cases found : source.lookup (keyOf row) with
  | some old =>
      have nothing : records = [] := by simpa [KeyedTable.changes, found] using same
      have unchanged : source.commit (.insert row) = source := by simp [KeyedTable.commit, found]
      rw [nothing, unchanged]
      refine iff_of_true image fun broken => ?_
      cases broken with
      | inserts _ _ fresh =>
          rw [found] at fresh
          cases fresh
  | none =>
      simp only [KeyedTable.changes, found, List.map_eq_singleton_iff] at same
      obtain ⟨⟨now, change⟩, rfl, rfl⟩ := same
      have written : source.commit (.insert row) = source.upsert row := by
        simp [KeyedTable.commit, found]
      have kept := filter_delete_of_invalid statement.passes source (keyOf row) (by simp [found])
      rw [written]
      by_cases selected : statement.Selects row
      · have valid : statement.passes row = true := decide_eq_true selected
        have grown : (source.upsert row).rows.filter statement.passes =
            source.rows.filter statement.passes ++ [row] := by
          rw [filter_upsert, kept, List.filter_cons_of_pos valid, List.filter_nil]
        rw [statement.deliver_written true sink now ⟨.insert, row⟩ selected (.inl rfl),
          image.append_iff keeps now row grown]
        constructor
        · intro free broken
          cases broken with
          | inserts _ other _ _ stored otherValid taken => exact free other stored otherValid taken
        · intro sound other stored otherValid taken
          exact sound (.inserts row other found valid stored otherValid taken)
      · have fails : ¬ statement.passes row = true := of_decide_eq_false (decide_eq_false (by
          rw [InsertSelect.passes, decide_eq_true_eq]
          exact selected))
        rw [statement.deliver_of_not_selects true sink now ⟨.insert, row⟩ selected]
        refine iff_of_true ?_ ?_
        · rw [Image, filter_upsert, kept, List.filter_cons_of_neg fails, List.filter_nil,
            List.append_nil]
          exact image
        · intro broken
          cases broken with
          | inserts _ _ _ valid => exact fails valid

/-- The changelog of an update is a -U and a +U record, or nothing when the key is unknown. -/
theorem Image.update_iff (keeps : statement.KeepsData data dataKey transform)
    (image : Image statement data transform source sink) (row : Row)
    (records : List (Time × Change Row))
    (same : records.map Prod.snd = source.changes (.update row)) :
    Image statement data transform (source.commit (.update row))
        (statement.deliver true sink records) ↔
      ¬ Breaks statement.passes (fun row => dataKey (transform row)) source (.update row) := by
  cases found : source.lookup (keyOf row) with
  | none =>
      have nothing : records = [] := by simpa [KeyedTable.changes, found] using same
      have unchanged : source.commit (.update row) = source := by simp [KeyedTable.commit, found]
      rw [nothing, unchanged]
      refine iff_of_true image fun broken => ?_
      cases broken with
      | invalidates _ _ known => exact absurd (known.symm.trans found) (Option.some_ne_none _)
      | moves _ _ known => exact absurd (known.symm.trans found) (Option.some_ne_none _)
      | repairs _ _ _ known => exact absurd (known.symm.trans found) (Option.some_ne_none _)
  | some old =>
      simp only [KeyedTable.changes, found] at same
      obtain ⟨before, rest, rfl, first, tail⟩ := List.map_eq_cons_iff.mp same
      obtain ⟨after, rfl, second⟩ := List.map_eq_singleton_iff.mp tail
      obtain ⟨early, change⟩ := before
      obtain ⟨now, change'⟩ := after
      subst first second
      have written : source.commit (.update row) = source.upsert row := by
        simp [KeyedTable.commit, found]
      have isOld (other : Row) (known : source.lookup (keyOf row) = some other) : other = old :=
        (Option.some.inj (found.symm.trans known)).symm
      rw [statement.deliver_cons, statement.deliver_ignored, written]
      cases wasValid : statement.passes old with
      | true =>
          cases valid : statement.passes row with
          | true =>
              rw [statement.deliver_written true sink now ⟨.updateAfter, row⟩
                (of_decide_eq_true valid) (.inr rfl),
                image.replace_iff keeps now old row found wasValid valid]
              constructor
              · intro kept broken
                cases broken with
                | invalidates _ _ _ _ fails => exact absurd (valid.symm.trans fails) (by decide)
                | moves other _ known _ _ moved =>
                    rw [isOld other known] at moved
                    exact moved kept
                | repairs other _ _ known wasInvalid =>
                    rw [isOld other known] at wasInvalid
                    exact absurd (wasValid.symm.trans wasInvalid) (by decide)
              · intro sound
                by_contra moved
                exact sound (.moves old row found wasValid valid moved)
          | false =>
              rw [statement.deliver_of_not_selects true sink now ⟨.updateAfter, row⟩
                (of_decide_eq_false valid)]
              refine iff_of_false (image.not_of_invalidated old row found wasValid valid) ?_
              exact not_not.mpr (.invalidates old row found wasValid valid)
      | false =>
          have kept := filter_delete_of_invalid statement.passes source (keyOf row)
            (by simp [found, wasValid])
          cases valid : statement.passes row with
          | true =>
              have grown : (source.upsert row).rows.filter statement.passes =
                  source.rows.filter statement.passes ++ [row] := by
                rw [filter_upsert, kept, List.filter_cons_of_pos valid, List.filter_nil]
              rw [statement.deliver_written true sink now ⟨.updateAfter, row⟩
                (of_decide_eq_true valid) (.inr rfl), image.append_iff keeps now row grown]
              constructor
              · intro free broken
                cases broken with
                | invalidates _ _ _ _ fails => exact absurd (valid.symm.trans fails) (by decide)
                | moves other _ known was =>
                    rw [isOld other known] at was
                    exact absurd (wasValid.symm.trans was) (by decide)
                | repairs _ _ other _ _ _ stored otherValid taken =>
                    exact free other stored otherValid taken
              · intro sound other stored otherValid taken
                exact sound (.repairs old row other found wasValid valid stored otherValid taken)
          | false =>
              rw [statement.deliver_of_not_selects true sink now ⟨.updateAfter, row⟩
                (of_decide_eq_false valid)]
              refine iff_of_true ?_ ?_
              · rw [Image, filter_upsert, kept, List.filter_cons_of_neg (by rw [valid]; decide),
                  List.filter_nil, List.append_nil]
                exact image
              · intro broken
                cases broken with
                | invalidates other _ known was =>
                    rw [isOld other known] at was
                    exact absurd (wasValid.symm.trans was) (by decide)
                | moves _ _ _ _ holds => exact absurd (valid.symm.trans holds) (by decide)
                | repairs _ _ _ _ _ holds => exact absurd (valid.symm.trans holds) (by decide)

/-- A delete never breaks the image. -/
theorem Image.delete (keeps : statement.KeepsData data dataKey transform)
    (image : Image statement data transform source sink) (key : Key)
    (records : List (Time × Change Row))
    (same : records.map Prod.snd = source.changes (.delete key)) :
    Image statement data transform (source.delete key) (statement.deliver true sink records) := by
  cases found : source.lookup key with
  | none =>
      have nothing : records = [] := by simpa [KeyedTable.changes, found] using same
      rw [nothing, Image, filter_delete_of_invalid statement.passes source key (by simp [found])]
      exact image
  | some old =>
      simp only [KeyedTable.changes, found, List.map_eq_singleton_iff] at same
      obtain ⟨⟨now, change⟩, rfl, rfl⟩ := same
      obtain ⟨stored, rfl⟩ := source.lookup_eq_some key old found
      by_cases selected : statement.Selects old
      · rw [statement.deliver_deleted true sink now old selected]
        apply image.remove keeps old stored (decide_eq_true selected)
        rw [← keeps.sameKey, keeps.columns]
      · have invalid : ∀ row ∈ source.lookup (keyOf old), statement.passes row = false := by
          simp [found, InsertSelect.passes, selected]
        rw [statement.deliver_of_not_selects true sink now ⟨.delete, old⟩ selected, Image,
          filter_delete_of_invalid statement.passes source (keyOf old) invalid]
        exact image

/-- A statement keeps the image exactly when it does not break it. -/
theorem Image.commit_iff (keeps : statement.KeepsData data dataKey transform)
    (image : Image statement data transform source sink) (step : Commit Row Key)
    (records : List (Time × Change Row)) (same : records.map Prod.snd = source.changes step) :
    Image statement data transform (source.commit step) (statement.deliver true sink records) ↔
      ¬ Breaks statement.passes (fun row => dataKey (transform row)) source step := by
  cases step with
  | insert row => exact image.insert_iff keeps row records same
  | update row => exact image.update_iff keeps row records same
  | delete key =>
      exact iff_of_true (image.delete keeps key records same) fun broken => by cases broken

end Step

section Run
variable [DecidableEq Key]

/-- No statement of the history breaks the image. -/
def NeverBreaks (passes : Row → Bool) (sinkKeyOf : Row → SinkKey) (keyOf : Row → Key)
    (history : List (Commit Row Key)) : Prop :=
  ∀ count step, history[count]? = some step →
    ¬ Breaks passes sinkKeyOf ((KeyedTable.empty keyOf).commitAll (history.take count)) step

/-- The first statements of a history without a break do not break. -/
theorem NeverBreaks.of_append {passes : Row → Bool} {sinkKeyOf : Row → SinkKey}
    {history later : List (Commit Row Key)}
    (sound : NeverBreaks passes sinkKeyOf keyOf (history ++ later)) :
    NeverBreaks passes sinkKeyOf keyOf history := by
  intro count step found
  have inside : count < history.length := (List.getElem?_eq_some_iff.mp found).1
  have kept := sound count step (by rw [List.getElem?_append_left inside]; exact found)
  rwa [List.take_append_of_le_length (Nat.le_of_lt inside)] at kept

/-- A history breaks nothing when its first statements and its last statement break nothing. -/
theorem neverBreaks_concat_iff (passes : Row → Bool) (sinkKeyOf : Row → SinkKey)
    (history : List (Commit Row Key)) (step : Commit Row Key) :
    NeverBreaks passes sinkKeyOf keyOf (history ++ [step]) ↔
      NeverBreaks passes sinkKeyOf keyOf history ∧
        ¬ Breaks passes sinkKeyOf ((KeyedTable.empty keyOf).commitAll history) step := by
  constructor
  · intro sound
    have last := sound history.length step List.getElem?_concat_length
    rw [List.take_left] at last
    exact ⟨sound.of_append, last⟩
  · rintro ⟨sound, last⟩ count other found
    rcases Nat.lt_or_ge count history.length with inside | after
    · rw [List.getElem?_append_left inside] at found
      rw [List.take_append_of_le_length (Nat.le_of_lt inside)]
      exact sound count other found
    · rw [List.getElem?_append_right after, List.getElem?_singleton] at found
      obtain ⟨here, same⟩ := Option.ite_none_right_eq_some.mp found
      have settled : count = history.length := by omega
      rw [settled, List.take_left, ← Option.some.inj same]
      exact last

theorem neverBreaks_nil (passes : Row → Bool) (sinkKeyOf : Row → SinkKey) :
    NeverBreaks passes sinkKeyOf keyOf [] := by
  intro count step found
  cases found

/-- No single statement breaks an empty table. -/
theorem neverBreaks_singleton (passes : Row → Bool) (sinkKeyOf : Row → SinkKey)
    (step : Commit Row Key) : NeverBreaks passes sinkKeyOf keyOf [step] := by
  rw [← List.nil_append [step], neverBreaks_concat_iff]
  constructor
  · exact neverBreaks_nil passes sinkKeyOf
  · intro broken
    cases broken with
    | invalidates _ _ found => cases found
    | moves _ _ found => cases found
    | inserts _ _ _ _ stored => cases stored
    | repairs _ _ _ found => cases found

variable [DecidableEq SinkKey] {statement : InsertSelect Time Row Sink SinkKey}
  {data : Sink → Data} {dataKey : Data → SinkKey} {transform : Row → Data}

/-- A sink that has read the changelog of a history without a break is the image of its source. -/
theorem image_of_neverBreaks (keeps : statement.KeepsData data dataKey transform)
    (history : List (Commit Row Key))
    (sound : NeverBreaks statement.passes (fun row => dataKey (transform row)) keyOf history)
    (records : List (Time × Change Row))
    (read : records.map Prod.snd = (KeyedTable.empty keyOf).changelog history) :
    Image statement data transform ((KeyedTable.empty keyOf).commitAll history)
      (statement.deliver true (KeyedTable.empty _) records) := by
  induction history using List.reverseRecOn generalizing records with
  | nil =>
      have nothing : records = [] := List.map_eq_nil_iff.mp read
      rw [nothing]
      exact List.Perm.refl _
  | append_singleton history step ih =>
      rw [KeyedTable.changelog_concat, List.map_eq_append_iff] at read
      obtain ⟨earlier, last, rfl, readEarlier, readLast⟩ := read
      obtain ⟨before, now⟩ := (neverBreaks_concat_iff _ _ history step).mp sound
      rw [KeyedTable.commitAll_append, InsertSelect.deliver_append]
      exact ((ih before earlier readEarlier).commit_iff keeps step last readLast).mpr now

/-- The sink is the image of its source after each step exactly when no step breaks it. -/
theorem image_run_iff (keeps : statement.KeepsData data dataKey transform)
    (clock : Nat → Time) (history : List (Commit Row Key)) :
    (∀ count, Image statement data transform
        ((KeyedTable.empty keyOf).commitAll (history.take count))
        (statement.afterHistory true keyOf clock (history.take count))) ↔
      NeverBreaks statement.passes (fun row => dataKey (transform row)) keyOf history := by
  constructor
  · intro images count step found
    have next := images (count + 1)
    rw [List.take_add_one, found, Option.toList_some, KeyedTable.commitAll_append,
      afterHistory_concat] at next
    exact ((images count).commit_iff keeps step _ (stampFrom_changes _ _ _)).mp next
  · intro sound count
    apply image_of_neverBreaks keeps _ _ _ (stampFrom_changes _ _ _)
    intro index step found
    obtain ⟨inside, known⟩ := List.getElem?_eq_some_iff.mp found
    rw [List.length_take] at inside
    have listed : history[index]? = some step := by
      rw [← List.getElem?_take_of_lt (by omega : index < count), found]
    have kept := sound index step listed
    rwa [List.take_take, Nat.min_eq_left (by omega)]

end Run

end OdsPipeline.Library
