import Mathlib.Logic.Function.Basic
import Mathlib.Logic.Relation

/-
This file interleaves the transactions of several threads on one store.
A transaction sees the committed store and its own steps.
-/

namespace OdsPipeline.Library

section Steps
variable {Store Step : Type*} (fits : Store → Step → Prop) (write : Store → Step → Store)

/-- Each step of a list fits after the steps before it. -/
def AllFit (store : Store) : List Step → Prop
  | [] => True
  | step :: rest => fits store step ∧ AllFit (write store step) rest

/-- Steps without a conflict keep each other possible, and their order does not matter. -/
structure Commutes (conflict : Step → Step → Prop) (same : Store → Store → Prop) : Prop where
  symm : ∀ first second, conflict first second → conflict second first
  keeps : ∀ store first second, fits store first → fits store second → ¬ conflict first second →
    fits (write store first) second
  swaps : ∀ store first second, fits store first → fits store second → ¬ conflict first second →
    same (write (write store first) second) (write (write store second) first)
  fits_congr : ∀ store other step, same store other → fits store step → fits other step
  write_congr : ∀ store other step, same store other → fits store step →
    same (write store step) (write other step)

variable {fits write}

theorem allFit_append (store : Store) (first second : List Step) :
    AllFit fits write store (first ++ second) ↔ AllFit fits write store first ∧
      AllFit fits write (first.foldl write store) second := by
  induction first generalizing store with
  | nil => exact (iff_of_eq (true_and _)).symm
  | cons step rest ih =>
      change fits store step ∧ AllFit fits write _ (rest ++ second) ↔ _
      rw [ih, ← and_assoc]
      rfl

variable {conflict : Step → Step → Prop} {same : Store → Store → Prop}

theorem Commutes.allFit_congr (commutes : Commutes fits write conflict same) {store other : Store}
    (equal : same store other) (steps : List Step) (fit : AllFit fits write store steps) :
    AllFit fits write other steps := by
  induction steps generalizing store other with
  | nil => trivial
  | cons step rest ih =>
      exact ⟨commutes.fits_congr _ _ _ equal fit.1,
        ih (commutes.write_congr _ _ _ equal fit.1) fit.2⟩

/-- Steps still fit after one step that conflicts with none of them. -/
theorem Commutes.allFit_write (commutes : Commutes fits write conflict same) (store : Store)
    (step : Step) (possible : fits store step) (steps : List Step)
    (fit : AllFit fits write store steps) (apart : ∀ other ∈ steps, ¬ conflict step other) :
    AllFit fits write (write store step) steps := by
  induction steps generalizing store with
  | nil => trivial
  | cons first rest ih =>
      obtain ⟨apartFirst, apartRest⟩ := List.forall_mem_cons.mp apart
      have reversed : ¬ conflict first step := fun clash => apartFirst (commutes.symm _ _ clash)
      have later := ih (write store first) (commutes.keeps _ _ _ fit.1 possible reversed) fit.2
        apartRest
      refine ⟨commutes.keeps _ _ _ possible fit.1 apartFirst, ?_⟩
      exact commutes.allFit_congr (commutes.swaps _ _ _ fit.1 possible reversed) rest later

/-- Steps still fit after other steps without a conflict between the two lists. -/
theorem Commutes.allFit_foldl (commutes : Commutes fits write conflict same) (store : Store)
    (others steps : List Step) (possible : AllFit fits write store others)
    (fit : AllFit fits write store steps)
    (apart : ∀ other ∈ others, ∀ step ∈ steps, ¬ conflict other step) :
    AllFit fits write (others.foldl write store) steps := by
  induction others generalizing store with
  | nil => exact fit
  | cons first rest ih =>
      obtain ⟨apartFirst, apartRest⟩ := List.forall_mem_cons.mp apart
      exact ih _ possible.2 (commutes.allFit_write store first possible.1 steps fit apartFirst)
        apartRest

end Steps

/-- Each thread has the steps of its open transaction. The log has the committed transactions. -/
structure Threads (Store Step Thread : Type*) where
  committed : Store
  opened : Thread → List Step
  log : List (List Step)

namespace Threads
variable {Store Step Thread : Type*} (fits : Store → Step → Prop) (write : Store → Step → Store)
  (conflict : Step → Step → Prop)

/-- No thread has an open transaction. -/
def start (store : Store) : Threads Store Step Thread := ⟨store, fun _ => [], []⟩

/-- The log is a serial run, and each open transaction can still commit. -/
structure Serial (store : Store) (state : Threads Store Step Thread) : Prop where
  log : AllFit fits write store state.log.flatten
  committed : state.committed = state.log.flatten.foldl write store
  opened : ∀ thread, AllFit fits write state.committed (state.opened thread)
  apart : ∀ thread other, thread ≠ other → ∀ step ∈ state.opened thread,
    ∀ taken ∈ state.opened other, ¬ conflict step taken

theorem serial_start (store : Store) :
    Serial fits write conflict store (start store : Threads Store Step Thread) where
  log := trivial
  committed := rfl
  opened := fun _ => trivial
  apart := fun _ _ _ _ member => by cases member

variable [DecidableEq Thread]

/-- A step waits for the other open transactions that conflict with it. -/
inductive Moves (state : Threads Store Step Thread) : Threads Store Step Thread → Prop
  | writes (thread : Thread) (step : Step)
      (possible : fits ((state.opened thread).foldl write state.committed) step)
      (free : ∀ other ≠ thread, ∀ taken ∈ state.opened other, ¬ conflict taken step) :
      Moves state { state with
        opened := Function.update state.opened thread (state.opened thread ++ [step]) }
  | rollsBack (thread : Thread) :
      Moves state { state with opened := Function.update state.opened thread [] }
  | commits (thread : Thread) :
      Moves state {
        committed := (state.opened thread).foldl write state.committed
        opened := Function.update state.opened thread []
        log := state.log ++ [state.opened thread] }

variable {fits write conflict} {same : Store → Store → Prop}

/-- A step of one thread keeps the transactions serial. -/
theorem Serial.writes (commutes : Commutes fits write conflict same) {store : Store}
    {state : Threads Store Step Thread} (serial : Serial fits write conflict store state)
    (thread : Thread) (step : Step)
    (possible : fits ((state.opened thread).foldl write state.committed) step)
    (free : ∀ other ≠ thread, ∀ taken ∈ state.opened other, ¬ conflict taken step) :
    Serial fits write conflict store { state with
      opened := Function.update state.opened thread (state.opened thread ++ [step]) } where
  log := serial.log
  committed := serial.committed
  opened := by
    intro other
    dsimp only
    by_cases own : other = thread
    · subst own
      rw [Function.update_self, allFit_append]
      exact ⟨serial.opened other, possible, trivial⟩
    · rw [Function.update_of_ne own]
      exact serial.opened other
  apart := by
    intro first second different a inFirst b inSecond clash
    dsimp only at inFirst inSecond
    by_cases own : first = thread
    · subst own
      rw [Function.update_self, List.mem_append, List.mem_singleton] at inFirst
      rw [Function.update_of_ne different.symm] at inSecond
      rcases inFirst with before | rfl
      · exact serial.apart first second different a before b inSecond clash
      · exact free second different.symm b inSecond (commutes.symm _ _ clash)
    · rw [Function.update_of_ne own] at inFirst
      by_cases theirs : second = thread
      · subst theirs
        rw [Function.update_self, List.mem_append, List.mem_singleton] at inSecond
        rcases inSecond with before | rfl
        · exact serial.apart first second different a inFirst b before clash
        · exact free first own a inFirst clash
      · rw [Function.update_of_ne theirs] at inSecond
        exact serial.apart first second different a inFirst b inSecond clash

/-- A thread without an open transaction is apart from all others. -/
theorem Serial.apart_update {store : Store} {state : Threads Store Step Thread}
    (serial : Serial fits write conflict store state) (thread : Thread) :
    ∀ first second, first ≠ second →
      ∀ step ∈ Function.update state.opened thread [] first,
        ∀ taken ∈ Function.update state.opened thread [] second, ¬ conflict step taken := by
  intro first second different a inFirst b inSecond
  have other (next : Thread) (step : Step)
      (member : step ∈ Function.update state.opened thread [] next) : step ∈ state.opened next := by
    by_cases own : next = thread
    · subst own
      rw [Function.update_self] at member
      cases member
    · rwa [Function.update_of_ne own] at member
  exact serial.apart first second different a (other first a inFirst) b (other second b inSecond)

theorem Serial.rollsBack {store : Store} {state : Threads Store Step Thread}
    (serial : Serial fits write conflict store state) (thread : Thread) :
    Serial fits write conflict store
      { state with opened := Function.update state.opened thread [] } where
  log := serial.log
  committed := serial.committed
  opened := by
    intro other
    dsimp only
    by_cases own : other = thread
    · subst own
      rw [Function.update_self]
      trivial
    · rw [Function.update_of_ne own]
      exact serial.opened other
  apart := serial.apart_update thread

/-- A commit goes to the end of the serial run, and the open transactions survive it. -/
theorem Serial.commits (commutes : Commutes fits write conflict same) {store : Store}
    {state : Threads Store Step Thread} (serial : Serial fits write conflict store state)
    (thread : Thread) :
    Serial fits write conflict store {
      committed := (state.opened thread).foldl write state.committed
      opened := Function.update state.opened thread []
      log := state.log ++ [state.opened thread] } where
  log := by
    rw [List.flatten_concat, allFit_append, ← serial.committed]
    exact ⟨serial.log, serial.opened thread⟩
  committed := by
    rw [List.flatten_concat, List.foldl_append, ← serial.committed]
  opened := by
    intro other
    dsimp only
    by_cases own : other = thread
    · subst own
      rw [Function.update_self]
      trivial
    · rw [Function.update_of_ne own]
      exact commutes.allFit_foldl state.committed _ _ (serial.opened thread) (serial.opened other)
        (serial.apart thread other (Ne.symm own))
  apart := serial.apart_update thread

theorem Serial.moves (commutes : Commutes fits write conflict same) {store : Store}
    {state next : Threads Store Step Thread} (serial : Serial fits write conflict store state)
    (moves : Moves fits write conflict state next) : Serial fits write conflict store next := by
  cases moves with
  | writes thread step possible free => exact serial.writes commutes thread step possible free
  | rollsBack thread => exact serial.rollsBack thread
  | commits thread => exact serial.commits commutes thread

/-- Each interleaving leaves the store that its committed transactions leave one after another. -/
theorem serial_of_reachable (commutes : Commutes fits write conflict same) (store : Store)
    (state : Threads Store Step Thread)
    (reached : Relation.ReflTransGen (Moves fits write conflict) (start store) state) :
    Serial fits write conflict store state := by
  induction reached with
  | refl => exact serial_start fits write conflict store
  | tail _ moves ih => exact ih.moves commutes moves

end Threads

end OdsPipeline.Library
