import Mathlib.Logic.Relation
import OdsPipeline.Library.Transaction

/-
This file describes a program inside an open transaction by what it does to its view.
-/

namespace OdsPipeline.Library

/-- An effect changes a store and gives a result, or it fails. -/
abbrev Effect (Store Fault : Type) (α : Type) := StateT Store (Except Fault) α

namespace Program
variable {Store Memory Fault α β Item : Type}

/-- With this memory the program does to its view what the effect does, and nothing else. -/
def Has (program : Program Store Memory Fault α) (memory : Memory)
    (effect : Effect Store Fault α) : Prop :=
  ∀ committed view, ∃ left,
    program.runOn ⟨committed, some view, memory⟩ =
        ((effect.run view).map Prod.fst, ⟨committed, some left, memory⟩) ∧
      ∀ value next, effect.run view = .ok (value, next) → left = next

/-- The effect of a statement that a lost connection can replace. -/
def statementEffect (statement : Store → Except Fault Store) : Effect Store Fault Unit :=
  fun view => (statement view).map fun next => ((), next)

/-- A step that fails when its fault is present. -/
def raise : Option Fault → Except Fault Unit
  | some fault => .error fault
  | none => .ok ()

/-- A transaction connects, writes and commits. -/
def settle (connectFault commitFault : Option Fault) (writes : Effect Store Fault α)
    (store : Store) : Except Fault Store := do
  raise connectFault
  let (_, next) ← writes.run store
  raise commitFault
  return next

/-- A settled transaction is published with a change of the memory, and a fault changes nothing. -/
def publish (session : Session Store Memory) (change : Memory → Memory) :
    Except Fault Store → Except Fault Unit × Session Store Memory
  | .ok next => (.ok (), ⟨next, none, change session.memory⟩)
  | .error fault => (.error fault, { session with working := none })

section Rules
variable {program : Program Store Memory Fault α} {memory : Memory} {effect : Effect Store Fault α}

theorem has_pure (value : α) :
    (pure value : Program Store Memory Fault α).Has memory (pure value) := by
  intro committed view
  refine ⟨view, rfl, ?_⟩
  rintro other next same
  cases same
  rfl

/-- A program that first reads the memory goes on with this memory. -/
theorem has_memory_bind {next : Memory → Program Store Memory Fault α}
    (continues : (next memory).Has memory effect) :
    (Program.memory >>= next : Program Store Memory Fault α).Has memory effect :=
  continues

theorem has_bind {next : α → Program Store Memory Fault β} {nextEffect : α → Effect Store Fault β}
    (starts : program.Has memory effect)
    (continues : ∀ value, (next value).Has memory (nextEffect value)) :
    (program >>= next).Has memory (effect >>= nextEffect) := by
  intro committed view
  obtain ⟨left, ran, reached⟩ := starts committed view
  have sequenced : (effect >>= nextEffect).run view =
      (effect.run view).bind fun result => (nextEffect result.1).run result.2 := rfl
  rw [runOn_bind, ran, sequenced]
  cases outcome : effect.run view with
  | error fault =>
      refine ⟨left, rfl, ?_⟩
      intro value after impossible
      cases impossible
  | ok result =>
      rw [reached result.1 result.2 outcome]
      exact continues result.1 committed result.2

/-- Effects that agree on each view describe the same programs. -/
theorem Has.congr {other : Effect Store Fault α} (has : program.Has memory effect)
    (same : ∀ view, other.run view = effect.run view) : program.Has memory other := by
  intro committed view
  obtain ⟨left, ran, reached⟩ := has committed view
  refine ⟨left, ?_, ?_⟩
  · rw [same, ran]
  · rw [same]
    exact reached

theorem has_executeUpdate (statement : Store → Except Fault Store) :
    (executeUpdate statement : Program Store Memory Fault Unit).Has memory
      (statementEffect statement) := by
  intro committed view
  have ran : (executeUpdate statement : Program Store Memory Fault Unit).runOn
      ⟨committed, some view, memory⟩ = match statement view with
        | .ok next => (.ok (), ⟨committed, some next, memory⟩)
        | .error fault => (.error fault, ⟨committed, some view, memory⟩) := rfl
  have written : (statementEffect statement).run view =
      (statement view).map fun next => ((), next) := rfl
  rw [ran, written]
  cases statement view with
  | error fault =>
      refine ⟨view, rfl, ?_⟩
      intro value next impossible
      cases impossible
  | ok after =>
      refine ⟨after, rfl, ?_⟩
      intro value next same
      cases same
      rfl

/-- A transaction publishes its settled view and then changes the memory, or it leaves both. -/
theorem runOn_settle (has : program.Has memory effect) (session : Session Store Memory)
    (same : session.memory = memory) (connectFault commitFault : Option Fault)
    (change : Memory → Memory) :
    runOn (withConnection do
      connect connectFault
      setAutoCommitFalse
      let _ ← program
      commit commitFault
      remember change) session =
      publish session change (settle connectFault commitFault effect session.committed) := by
  cases connectFault with
  | some fault => rfl
  | none =>
      have opened : runOn (withConnection do
          connect none
          setAutoCommitFalse
          let _ ← program
          commit commitFault
          remember change) session =
          let (result, after) := runOn (do
            let _ ← program
            commit commitFault
            remember change) ⟨session.committed, some session.committed, session.memory⟩
          (result, { after with working := none }) := rfl
      obtain ⟨left, ran, reached⟩ := has session.committed session.committed
      have settled : settle none commitFault effect session.committed =
          (effect.run session.committed).bind fun result => do
            raise commitFault
            return result.2 := rfl
      rw [opened, runOn_bind, same, ran, settled]
      cases outcome : effect.run session.committed with
      | error fault =>
          subst same
          rfl
      | ok result =>
          rw [reached result.1 result.2 outcome]
          subst same
          cases commitFault with
          | some fault => rfl
          | none => rfl

end Rules

section Follows
variable {relation : Session Store Memory → Session Store Memory → Prop}

/-- However the program ends, its sessions are related by some steps. -/
def Follows (relation : Session Store Memory → Session Store Memory → Prop)
    (program : Program Store Memory Fault α) : Prop :=
  ∀ session, Relation.ReflTransGen relation session (program.runOn session).2

theorem follows_pure (value : α) :
    Follows relation (pure value : Program Store Memory Fault α) :=
  fun _ => .refl

theorem follows_bind {first : Program Store Memory Fault α}
    {second : α → Program Store Memory Fault β} (starts : Follows relation first)
    (continues : ∀ value, Follows relation (second value)) :
    Follows relation (first >>= second) := by
  intro session
  rw [runOn_bind]
  cases (first.runOn session).1 with
  | error fault => exact starts session
  | ok value => exact (starts session).trans (continues value _)

theorem follows_tryCatch {body : Program Store Memory Fault α}
    {handler : Fault → Program Store Memory Fault α} (runs : Follows relation body)
    (handles : ∀ fault, Follows relation (handler fault)) :
    Follows relation (tryCatch body handler) := by
  intro session
  rw [runOn_tryCatch]
  cases (body.runOn session).1 with
  | error fault => exact (runs session).trans (handles fault _)
  | ok value => exact runs session

theorem follows_foldlM (items : List Item) (body : α → Item → Program Store Memory Fault α)
    (runs : ∀ total item, Follows relation (body total item)) (start : α) :
    Follows relation (items.foldlM body start) := by
  induction items generalizing start with
  | nil => exact follows_pure start
  | cons item rest ih =>
      rw [List.foldlM_cons]
      exact follows_bind (runs start item) ih

theorem follows_forM (items : List Item) (body : Item → Program Store Memory Fault PUnit)
    (runs : ∀ item, Follows relation (body item)) : Follows relation (items.forM body) := by
  induction items with
  | nil => exact follows_pure _
  | cons item rest ih => exact follows_bind (runs item) fun _ => ih

end Follows

end Program

end OdsPipeline.Library
