import Mathlib.Data.List.Dedup
import Mathlib.Data.List.Perm.Basic
import Mathlib.Tactic.TypeStar

/-
This file runs scripts whose statements each change the state as a whole or not at all.
-/

namespace OdsPipeline.Library

section Script
variable {State Fault : Type*}

/-- A statement changes the state or fails and leaves it. -/
abbrev AtomicStatement (State Fault : Type*) := State → Except Fault State

/-- A script reports its faults. With `onErrorStop` the first fault ends it. -/
def runScript (onErrorStop : Bool) : List (AtomicStatement State Fault) → State →
    State × List Fault
  | [], state => (state, [])
  | statement :: rest, state =>
      match statement state with
      | .ok next => runScript onErrorStop rest next
      | .error fault =>
          if onErrorStop then (state, [fault])
          else
            let outcome := runScript onErrorStop rest state
            (outcome.1, fault :: outcome.2)

/-- What each successful statement keeps holds after each script. -/
theorem runScript_keeps (keeps : State → Prop) (onErrorStop : Bool)
    (statements : List (AtomicStatement State Fault))
    (step : ∀ statement ∈ statements, ∀ state next, keeps state → statement state = .ok next →
      keeps next) (state : State) (holds : keeps state) :
    keeps (runScript onErrorStop statements state).1 := by
  induction statements generalizing state with
  | nil => exact holds
  | cons statement rest ih =>
      have later := ih fun other member => step other (List.mem_cons_of_mem _ member)
      rw [runScript]
      cases done : statement state with
      | ok next =>
          exact later next (step statement List.mem_cons_self state next holds done)
      | error fault =>
          cases onErrorStop with
          | true => exact holds
          | false => exact later state holds

/-- A script without a fault is the composition of its statements. -/
theorem runScript_eq_iff (onErrorStop : Bool) (statements : List (AtomicStatement State Fault))
    (state next : State) :
    runScript onErrorStop statements state = (next, []) ↔
      statements.foldlM (fun state statement => statement state) state = .ok next := by
  induction statements generalizing state with
  | nil =>
      rw [runScript, List.foldlM_nil, Prod.mk.injEq]
      change state = next ∧ [] = [] ↔ Except.ok state = Except.ok next
      rw [Except.ok.injEq, and_iff_left rfl]
  | cons statement rest ih =>
      rw [runScript, List.foldlM_cons]
      cases done : statement state with
      | ok reached => exact ih reached
      | error fault =>
          apply iff_of_false
          · cases onErrorStop with
            | true => simp
            | false => simp
          · intro impossible
            cases impossible

end Script

/-- SELECT DISTINCT ON keeps one row for each key, and may choose any of them. -/
structure DistinctOn {Row Key : Type*} [DecidableEq Key] (keyOf : Row → Key) where
  pick : List Row → List Row
  subset : ∀ rows, pick rows ⊆ rows
  keys : ∀ rows, ((pick rows).map keyOf).Perm (rows.map keyOf).dedup

namespace DistinctOn
variable {Row Key : Type*} [DecidableEq Key] {keyOf : Row → Key} (distinctOn : DistinctOn keyOf)

theorem nodup_keys (rows : List Row) : ((distinctOn.pick rows).map keyOf).Nodup :=
  (distinctOn.keys rows).nodup_iff.mpr (List.nodup_dedup _)

/-- Each row has a picked row with its key. -/
theorem exists_pick (rows : List Row) (row : Row) (member : row ∈ rows) :
    ∃ picked ∈ distinctOn.pick rows, keyOf picked = keyOf row := by
  have inside : keyOf row ∈ (distinctOn.pick rows).map keyOf := by
    rw [(distinctOn.keys rows).mem_iff, List.mem_dedup]
    exact List.mem_map_of_mem member
  exact List.mem_map.mp inside

/-- One choice is the last row of each key. -/
def last (keyOf : Row → Key) : DistinctOn keyOf where
  pick rows := rows.foldr (fun row kept => if keyOf row ∈ kept.map keyOf then kept else row :: kept) []
  subset rows := by
    induction rows with
    | nil => exact List.Subset.refl _
    | cons row rest ih =>
        rw [List.foldr_cons]
        split
        · exact fun _ member => List.mem_cons_of_mem _ (ih member)
        · exact List.cons_subset_cons _ ih
  keys rows := by
    induction rows with
    | nil => exact List.Perm.refl _
    | cons row rest ih =>
        rw [List.foldr_cons, List.map_cons]
        by_cases seen : keyOf row ∈ rest.map keyOf
        · have taken := ih.mem_iff.mpr (List.mem_dedup.mpr seen)
          rw [if_pos taken, List.dedup_cons_of_mem seen]
          exact ih
        · have fresh := mt (fun taken => List.mem_dedup.mp (ih.mem_iff.mp taken)) seen
          rw [if_neg fresh, List.dedup_cons_of_notMem seen]
          exact ih.cons _

end DistinctOn

end OdsPipeline.Library
