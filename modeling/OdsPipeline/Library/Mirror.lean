import OdsPipeline.Library.Changelog

/-
This file compares a filtered sink table with the source table that feeds it.
-/

namespace OdsPipeline.Library

variable {Time Row Key Sink SinkKey Data : Type*} [DecidableEq Key] [DecidableEq SinkKey]
variable {keyOf : Row → Key}

/-- The sink after a history has received every record of the changelog. -/
def InsertSelect.afterHistory (statement : InsertSelect Time Row Sink SinkKey)
    (ignoreUpdateBefore : Bool) (keyOf : Row → Key) (clock : Nat → Time)
    (history : List (Commit Row Key)) : KeyedTable statement.primaryKey :=
  statement.deliver ignoreUpdateBefore (KeyedTable.empty _)
    (stampFrom clock 0 ((KeyedTable.empty keyOf).changelog history))

def InsertSelect.passes (statement : InsertSelect Time Row Sink SinkKey) (row : Row) : Bool :=
  decide (statement.Selects row)

/-- A mirror holds the transformed current row of each key whose row passes the filter. -/
structure Mirrors (passes : Row → Bool) (transform : Row → Data) (embed : Key → SinkKey)
    {sinkKey : Sink → SinkKey} (data : Sink → Data)
    (source : KeyedTable keyOf) (sink : KeyedTable sinkKey) : Prop where
  agrees : ∀ key, (sink.lookup (embed key)).map data =
    ((source.lookup key).filter passes).map transform
  embedded : ∀ row ∈ sink.rows, ∃ key, sinkKey row = embed key

/-- A statement invalidates a row when it turns a passing row into a failing one. -/
def Invalidates (passes : Row → Bool) (source : KeyedTable keyOf) (step : Commit Row Key) : Prop :=
  ∃ old new, step = .update new ∧ source.lookup (keyOf new) = some old ∧
    passes old = true ∧ passes new = false

/-- The statement keeps the key of each row and transforms its other columns. -/
structure KeepsKey (statement : InsertSelect Time Row Sink SinkKey) (keyOf : Row → Key)
    (embed : Key → SinkKey) (data : Sink → Data) (transform : Row → Data) : Prop where
  injective : Function.Injective embed
  key : ∀ now row, statement.primaryKey (statement.select now row) = embed (keyOf row)
  columns : ∀ now row, data (statement.select now row) = transform row

section Step
variable {statement : InsertSelect Time Row Sink SinkKey} {embed : Key → SinkKey}
  {data : Sink → Data} {transform : Row → Data}
variable {source next : KeyedTable keyOf} {sink : KeyedTable statement.primaryKey}

/-- A passing write to the source is an upsert of the mirror. -/
theorem Mirrors.write (mirror : Mirrors statement.passes transform embed data source sink)
    (keeps : KeepsKey statement keyOf embed data transform) (now : Time) (row : Row)
    (written : ∀ key, next.lookup key = if key = keyOf row then some row else source.lookup key)
    (passing : statement.passes row = true) :
    Mirrors statement.passes transform embed data next
      (sink.upsert (statement.select now row)) where
  agrees key := by
    simp only [KeyedTable.lookup_upsert, keeps.key, keeps.injective.eq_iff, written]
    by_cases same : key = keyOf row
    · simp [same, keeps.columns, Option.filter_some, passing]
    · simpa [same] using mirror.agrees key
  embedded other member := by
    rcases sink.mem_upsert _ _ member with old | rfl
    · exact mirror.embedded other old
    · exact ⟨keyOf row, keeps.key now row⟩

/-- A failing write keeps the mirror when no passing row stood at its key. -/
theorem Mirrors.skip (mirror : Mirrors statement.passes transform embed data source sink)
    (row : Row)
    (written : ∀ key, next.lookup key = if key = keyOf row then some row else source.lookup key)
    (failing : statement.passes row = false)
    (absent : (source.lookup (keyOf row)).filter statement.passes = none) :
    Mirrors statement.passes transform embed data next sink where
  agrees key := by
    rw [mirror.agrees key, written]
    by_cases same : key = keyOf row
    · subst same
      simp [absent, Option.filter_some, failing]
    · simp [same]
  embedded := mirror.embedded

/-- A deleted passing row leaves both tables. -/
theorem Mirrors.remove (mirror : Mirrors statement.passes transform embed data source sink)
    (keeps : KeepsKey statement keyOf embed data transform) (now : Time) (old : Row) :
    Mirrors statement.passes transform embed data (source.delete (keyOf old))
      (sink.delete (statement.primaryKey (statement.select now old))) where
  agrees key := by
    simp only [KeyedTable.lookup_delete, keeps.key, keeps.injective.eq_iff]
    by_cases same : key = keyOf old
    · simp [same]
    · simpa [same] using mirror.agrees key
  embedded other member := mirror.embedded other (sink.mem_delete _ other member)

/-- A delete at a key without a passing row keeps the mirror. -/
theorem Mirrors.forget (mirror : Mirrors statement.passes transform embed data source sink)
    (key : Key) (absent : (source.lookup key).filter statement.passes = none) :
    Mirrors statement.passes transform embed data (source.delete key) sink where
  agrees other := by
    rw [mirror.agrees other, KeyedTable.lookup_delete]
    by_cases same : other = key
    · subst same
      simp [absent]
    · simp [same]
  embedded := mirror.embedded

/-- One statement that invalidates no row keeps the mirror. -/
theorem Mirrors.commit (mirror : Mirrors statement.passes transform embed data source sink)
    (keeps : KeepsKey statement keyOf embed data transform) (step : Commit Row Key)
    (sound : ¬ Invalidates statement.passes source step)
    (records : List (Time × Change Row)) (same : records.map Prod.snd = source.changes step) :
    Mirrors statement.passes transform embed data (source.commit step)
      (statement.deliver true sink records) := by
  cases step with
  | insert row =>
      cases found : source.lookup (keyOf row) with
      | some old =>
          have nothing : records = [] := by simpa [KeyedTable.changes, found] using same
          simpa [nothing, KeyedTable.commit, found] using mirror
      | none =>
          simp only [KeyedTable.changes, found, List.map_eq_singleton_iff] at same
          obtain ⟨⟨now, change⟩, rfl, rfl⟩ := same
          have written := fun key => source.lookup_commit_insert row key found
          by_cases selected : statement.Selects row
          · rw [statement.deliver_written true sink now ⟨.insert, row⟩ selected (.inl rfl)]
            exact mirror.write keeps now row written (decide_eq_true selected)
          · rw [statement.deliver_of_not_selects true sink now ⟨.insert, row⟩ selected]
            exact mirror.skip row written (decide_eq_false selected) (by rw [found]; rfl)
  | update row =>
      cases found : source.lookup (keyOf row) with
      | none =>
          have nothing : records = [] := by simpa [KeyedTable.changes, found] using same
          simpa [nothing, KeyedTable.commit, found] using mirror
      | some old =>
          simp only [KeyedTable.changes, found] at same
          obtain ⟨before, rest, rfl, first, tail⟩ := List.map_eq_cons_iff.mp same
          obtain ⟨after, rfl, second⟩ := List.map_eq_singleton_iff.mp tail
          obtain ⟨early, change⟩ := before
          obtain ⟨now, change'⟩ := after
          subst first second
          rw [statement.deliver_cons, statement.deliver_ignored]
          have written := fun key => source.lookup_commit_update row old key found
          by_cases selected : statement.Selects row
          · rw [statement.deliver_written true sink now ⟨.updateAfter, row⟩ selected (.inr rfl)]
            exact mirror.write keeps now row written (decide_eq_true selected)
          · rw [statement.deliver_of_not_selects true sink now ⟨.updateAfter, row⟩ selected]
            have failing : statement.passes row = false := decide_eq_false selected
            -- The old row fails too: otherwise this update would invalidate it.
            have oldFails : statement.passes old = false := by
              by_contra passing
              exact sound ⟨old, row, rfl, found, Bool.of_not_eq_false passing, failing⟩
            exact mirror.skip row written failing (by rw [found]; simp [oldFails])
  | delete key =>
      cases found : source.lookup key with
      | none =>
          have nothing : records = [] := by simpa [KeyedTable.changes, found] using same
          rw [nothing]
          exact mirror.forget key (by rw [found]; rfl)
      | some old =>
          simp only [KeyedTable.changes, found, List.map_eq_singleton_iff] at same
          obtain ⟨⟨now, change⟩, rfl, rfl⟩ := same
          have sameKey : keyOf old = key := (source.lookup_eq_some key old found).2
          by_cases selected : statement.Selects old
          · rw [statement.deliver_deleted true sink now old selected]
            simpa [KeyedTable.commit, sameKey] using mirror.remove keeps now old
          · rw [statement.deliver_of_not_selects true sink now ⟨.delete, old⟩ selected]
            have failing : statement.passes old = false := decide_eq_false selected
            exact mirror.forget key (by rw [found]; simp [failing])

/-- A statement that invalidates a row breaks the mirror. -/
theorem Mirrors.not_commit_of_invalidates
    (mirror : Mirrors statement.passes transform embed data source sink)
    (step : Commit Row Key) (broken : Invalidates statement.passes source step)
    (records : List (Time × Change Row)) (same : records.map Prod.snd = source.changes step) :
    ¬ Mirrors statement.passes transform embed data (source.commit step)
      (statement.deliver true sink records) := by
  obtain ⟨old, row, rfl, found, passing, failing⟩ := broken
  simp only [KeyedTable.changes, found] at same
  obtain ⟨⟨early, change⟩, rest, rfl, rfl, tail⟩ := List.map_eq_cons_iff.mp same
  obtain ⟨⟨now, change'⟩, rfl, rfl⟩ := List.map_eq_singleton_iff.mp tail
  have rejected : ¬ statement.Selects row := of_decide_eq_false failing
  rw [statement.deliver_cons, statement.deliver_ignored,
    statement.deliver_of_not_selects true sink now ⟨.updateAfter, row⟩ rejected]
  intro after
  have stale := (mirror.agrees (keyOf row)).symm.trans (after.agrees (keyOf row))
  rw [source.lookup_commit_update row old _ found, found] at stale
  simp [Option.filter_some, passing, failing] at stale

end Step

section Run
variable {statement : InsertSelect Time Row Sink SinkKey} {embed : Key → SinkKey}
  {data : Sink → Data} {transform : Row → Data}

/-- The sink after one more statement receives the records of this statement. -/
theorem afterHistory_concat (statement : InsertSelect Time Row Sink SinkKey)
    (ignoreUpdateBefore : Bool) (keyOf : Row → Key) (clock : Nat → Time)
    (history : List (Commit Row Key)) (step : Commit Row Key) :
    statement.afterHistory ignoreUpdateBefore keyOf clock (history ++ [step]) =
      statement.deliver ignoreUpdateBefore
        (statement.afterHistory ignoreUpdateBefore keyOf clock history)
        (stampFrom clock (0 + ((KeyedTable.empty keyOf).changelog history).length)
          (((KeyedTable.empty keyOf).commitAll history).changes step)) := by
  rw [InsertSelect.afterHistory, KeyedTable.changelog_concat, stampFrom_append,
    InsertSelect.deliver_append]
  rfl

theorem mirrors_empty (statement : InsertSelect Time Row Sink SinkKey) :
    Mirrors statement.passes transform embed data (KeyedTable.empty keyOf)
      (KeyedTable.empty statement.primaryKey) :=
  ⟨fun _ => rfl, by simp⟩

/-- The sink mirrors the source after each step exactly when no step invalidates a row. -/
theorem mirrors_run_iff (keeps : KeepsKey statement keyOf embed data transform)
    (clock : Nat → Time) (history : List (Commit Row Key)) :
    (∀ count, Mirrors statement.passes transform embed data
        ((KeyedTable.empty keyOf).commitAll (history.take count))
        (statement.afterHistory true keyOf clock (history.take count))) ↔
      ∀ count step, history[count]? = some step →
        ¬ Invalidates statement.passes
          ((KeyedTable.empty keyOf).commitAll (history.take count)) step := by
  have extend (count : Nat) (step : Commit Row Key) (found : history[count]? = some step) :
      history.take (count + 1) = history.take count ++ [step] := by
    rw [List.take_add_one, found, Option.toList_some]
  constructor
  · intro mirrors count step found broken
    have next := mirrors (count + 1)
    rw [extend count step found, KeyedTable.commitAll_append, afterHistory_concat] at next
    exact (mirrors count).not_commit_of_invalidates step broken _ (stampFrom_changes _ _ _) next
  · intro sound count
    induction count with
    | zero => exact mirrors_empty statement
    | succ count ih =>
        cases found : history[count]? with
        | none =>
            have done : history.take (count + 1) = history.take count := by
              rw [List.take_add_one, found, Option.toList_none, List.append_nil]
            rw [done]
            exact ih
        | some step =>
            rw [extend count step found, KeyedTable.commitAll_append, afterHistory_concat]
            exact ih.commit keeps step (sound count step found) _ (stampFrom_changes _ _ _)

end Run

end OdsPipeline.Library
