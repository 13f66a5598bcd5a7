import OdsPipeline.Library.Image

/-
This file follows a sink that reads a projected changelog and can stop anywhere in it.
-/

namespace OdsPipeline.Library

/-- A change of the same kind with a projected row. -/
def Change.map {Row Source : Type*} (project : Row → Source) (change : Change Row) : Change Source :=
  ⟨change.kind, project change.row⟩

section Project
variable {Time Row Source Sink SinkKey : Type*} [DecidableEq SinkKey]

/-- A statement reads the projected rows as its projection reads the rows. -/
theorem InsertSelect.deliver_comap (statement : InsertSelect Time Source Sink SinkKey)
    (project : Row → Source) (ignoreUpdateBefore : Bool) (table : KeyedTable statement.primaryKey)
    (records : List (Time × Change Row)) :
    (statement.comap project).deliver ignoreUpdateBefore table records =
      statement.deliver ignoreUpdateBefore table
        (records.map fun record => (record.1, record.2.map project)) := by
  unfold deliver sinkOps
  rw [List.filterMap_map]
  rfl

/-- Projected records are the projection of timed records. -/
theorem exists_of_projected (project : Row → Source) (records : List (Time × Change Source))
    (changes : List (Change Row)) (read : records.map Prod.snd = changes.map (Change.map project)) :
    ∃ timed : List (Time × Change Row), timed.map Prod.snd = changes ∧
      records = timed.map fun record => (record.1, record.2.map project) := by
  induction records generalizing changes with
  | nil =>
      have nothing : changes = [] := List.map_eq_nil_iff.mp read.symm
      exact ⟨[], nothing.symm, rfl⟩
  | cons record rest ih =>
      obtain ⟨change, others, rfl, first, later⟩ := List.map_eq_cons_iff.mp read.symm
      obtain ⟨timed, same, rfl⟩ := ih others later.symm
      refine ⟨(record.1, change) :: timed, by rw [List.map_cons, same], ?_⟩
      rw [List.map_cons, first]

end Project

/-- A clock that stands still gives each record the same time. -/
theorem stampFrom_const {Time Row : Type*} (now : Time) (start : Nat) (changes : List (Change Row)) :
    stampFrom (fun _ => now) start changes = changes.map fun change => (now, change) := by
  conv_rhs => rw [← List.zipIdx_map_fst start changes, List.map_map]
  rfl

section Commits
variable {State Step Row Key : Type*} [DecidableEq Key] {keyOf : Row → Key}

/-- A table inside a larger state follows its own statements. -/
theorem KeyedTable.foldl_own (table : State → KeyedTable keyOf) (step : State → Step → State)
    (own : Step → Option (Commit Row Key))
    (reached : ∀ state next statement, own next = some statement →
      table (step state next) = (table state).commit statement)
    (passed : ∀ state next, own next = none → table (step state next) = table state)
    (state : State) (steps : List Step) :
    table (steps.foldl step state) = (table state).commitAll (steps.filterMap own) := by
  induction steps generalizing state with
  | nil => rfl
  | cons next rest ih =>
      rw [List.foldl_cons, ih]
      cases found : own next with
      | none => rw [List.filterMap_cons_none found, passed state next found]
      | some statement =>
          rw [List.filterMap_cons_some found, reached state next statement found]
          rfl

end Commits

section Lag
variable {Time Row Key Sink SinkKey Data : Type*} [DecidableEq Key] [DecidableEq SinkKey]
  {keyOf : Row → Key}
variable {statement : InsertSelect Time Row Sink SinkKey} {data : Sink → Data}
  {dataKey : Data → SinkKey} {transform : Row → Data}

/-- A part of the records of one statement is nothing, the whole, or the -U record alone. -/
theorem KeyedTable.prefix_changes (source : KeyedTable keyOf) (step : Commit Row Key)
    (part : List (Change Row)) (begins : part <+: source.changes step) :
    part = [] ∨ part = source.changes step ∨ ∃ old, part = [⟨.updateBefore, old⟩] := by
  have single (change : Change Row) (inside : part <+: [change]) : part = [] ∨ part = [change] := by
    rcases List.prefix_concat_iff.mp (show part <+: [] ++ [change] from inside) with whole | none
    · exact .inr whole
    · exact .inl (List.prefix_nil.mp none)
  cases step with
  | insert row =>
      rw [changes] at begins ⊢
      cases found : source.lookup (keyOf row) with
      | none =>
          rw [found] at begins
          exact (single _ begins).imp_right .inl
      | some old =>
          rw [found] at begins
          exact .inl (List.prefix_nil.mp begins)
  | update row =>
      rw [changes] at begins ⊢
      cases found : source.lookup (keyOf row) with
      | none =>
          rw [found] at begins
          exact .inl (List.prefix_nil.mp begins)
      | some old =>
          rw [found] at begins
          rcases List.prefix_concat_iff.mp
            (show part <+: [⟨.updateBefore, old⟩] ++ [⟨.updateAfter, row⟩] from begins) with
            whole | first
          · exact .inr (.inl whole)
          · exact (single _ first).imp_right fun before => .inr ⟨old, before⟩
  | delete key =>
      rw [changes] at begins ⊢
      cases found : source.lookup key with
      | none =>
          rw [found] at begins
          exact .inl (List.prefix_nil.mp begins)
      | some old =>
          rw [found] at begins
          exact (single _ begins).imp_right .inl

/-- A sink that has read a part of the changelog is the image of the source at some earlier
statement. -/
theorem image_of_prefix (keeps : statement.KeepsData data dataKey transform)
    (history : List (Commit Row Key))
    (sound : NeverBreaks statement.passes (fun row => dataKey (transform row)) keyOf history)
    (records : List (Time × Change Row))
    (read : records.map Prod.snd <+: (KeyedTable.empty keyOf).changelog history) :
    ∃ count ≤ history.length, Image statement data transform
      ((KeyedTable.empty keyOf).commitAll (history.take count))
      (statement.deliver true (KeyedTable.empty _) records) := by
  induction history using List.reverseRecOn generalizing records with
  | nil =>
      have nothing : records = [] := List.map_eq_nil_iff.mp (List.prefix_nil.mp read)
      rw [nothing]
      exact ⟨0, Nat.le_refl _, List.Perm.refl _⟩
  | append_singleton history step ih =>
      rw [KeyedTable.changelog_concat] at read
      rcases Nat.le_total records.length ((KeyedTable.empty keyOf).changelog history).length with
        short | long
      · have early := List.prefix_of_prefix_length_le read (List.prefix_append _ _)
          (by rwa [List.length_map])
        obtain ⟨count, few, image⟩ := ih sound.of_append records early
        refine ⟨count, by rw [List.length_append]; omega, ?_⟩
        rwa [List.take_append_of_le_length few]
      · have whole := List.prefix_of_prefix_length_le (List.prefix_append _ _) read
          (by rwa [List.length_map])
        obtain ⟨part, split⟩ := whole
        rw [← split, List.prefix_append_right_inj] at read
        obtain ⟨earlier, last, rfl, readEarlier, readLast⟩ := List.map_eq_append_iff.mp split.symm
        have image := image_of_neverBreaks keeps history sound.of_append earlier readEarlier
        rcases KeyedTable.prefix_changes _ step part read with none | all | ⟨old, before⟩
        · rw [none, List.map_eq_nil_iff] at readLast
          refine ⟨history.length, by rw [List.length_append]; omega, ?_⟩
          rwa [List.take_left, readLast, List.append_nil]
        · refine ⟨(history ++ [step]).length, Nat.le_refl _, ?_⟩
          rw [List.take_length]
          apply image_of_neverBreaks keeps _ sound
          rw [KeyedTable.changelog_concat, ← split, all]
        · rw [before, List.map_eq_singleton_iff] at readLast
          obtain ⟨⟨now, change⟩, rfl, rfl⟩ := readLast
          refine ⟨history.length, by rw [List.length_append]; omega, ?_⟩
          rwa [List.take_left, InsertSelect.deliver_append, InsertSelect.deliver_ignored]

end Lag

end OdsPipeline.Library
