import Mathlib.Data.List.Induction
import Mathlib.Tactic.TypeStar

/-
This file contains programs that write a store through a connection, and their rules.
-/

namespace OdsPipeline.Library

/-- A client has its own memory and sees its open transaction beside the committed store. -/
structure Session (Store Memory : Type) where
  committed : Store
  working : Option Store
  memory : Memory

/-- A program that stops with a fault keeps the state that it has reached. -/
abbrev Program (Store Memory Fault : Type) (α : Type) :=
  ExceptT Fault (StateM (Session Store Memory)) α

namespace Program
variable {Store Memory Fault α β : Type}

/-- A call sees the result of a program and the state that it leaves. -/
def runOn (program : Program Store Memory Fault α) (session : Session Store Memory) :
    Except Fault α × Session Store Memory :=
  (ExceptT.run program).run session

def memory : Program Store Memory Fault Memory :=
  ExceptT.lift (modifyGet fun session => (session.memory, session))

def remember (change : Memory → Memory) : Program Store Memory Fault Unit :=
  ExceptT.lift (modify fun session => { session with memory := change session.memory })

/-- The next statement starts a transaction on the committed store. -/
def setAutoCommitFalse : Program Store Memory Fault Unit :=
  ExceptT.lift (modify fun session => { session with working := some session.committed })

/-- A statement reads and writes the open transaction, and commits at once without one.
A statement that fails writes nothing. -/
def executeUpdate (statement : Store → Except Fault Store) : Program Store Memory Fault Unit :=
  ExceptT.mk fun session =>
    match session.working with
    | some view =>
        match statement view with
        | .ok next => (.ok (), { session with working := some next })
        | .error fault => (.error fault, session)
    | none =>
        match statement session.committed with
        | .ok next => (.ok (), { session with committed := next })
        | .error fault => (.error fault, session)

/-- A lost connection replaces the outcome of a statement. -/
def attempt (fault : Option Fault) (statement : Store → Except Fault Store) (store : Store) :
    Except Fault Store :=
  match fault with
  | some fault => .error fault
  | none => statement store

/-- A commit publishes the whole transaction in one step, or it fails and publishes nothing. -/
def commit (fault : Option Fault) : Program Store Memory Fault Unit :=
  ExceptT.mk fun session =>
    match fault with
    | some fault => (.error fault, session)
    | none => (.ok (), { session with committed := session.working.getD session.committed })

/-- The connection can fail before its first statement. -/
def connect (fault : Option Fault) : Program Store Memory Fault Unit :=
  ExceptT.mk fun session =>
    match fault with
    | some fault => (.error fault, session)
    | none => (.ok (), session)

/-- A connection is closed on each way out, and closing it drops an open transaction. -/
def withConnection (body : Program Store Memory Fault α) : Program Store Memory Fault α :=
  ExceptT.mk fun session =>
    let (result, after) := body.runOn { session with working := none }
    (result, { after with working := none })

section Rules

/-- Inside an open transaction a program changes only its own view, and a result comes with a
view that meets the postcondition. -/
def Works (before : Store → Prop) (program : Program Store Memory Fault α)
    (after : α → Store → Prop) : Prop :=
  ∀ (session : Session Store Memory) (view : Store), session.working = some view → before view →
    (program.runOn session).2.committed = session.committed ∧
      (program.runOn session).2.memory = session.memory ∧
        ∀ value, (program.runOn session).1 = .ok value →
          ∃ next, (program.runOn session).2.working = some next ∧ after value next

variable {before : Store → Prop} {middle : α → Store → Prop} {after : β → Store → Prop}

theorem runOn_bind (first : Program Store Memory Fault α) (second : α → Program Store Memory Fault β)
    (session : Session Store Memory) :
    (first >>= second).runOn session =
      match (first.runOn session).1 with
      | .ok value => (second value).runOn (first.runOn session).2
      | .error fault => (.error fault, (first.runOn session).2) := by
  change (ExceptT.bindCont second (first.runOn session).1) (first.runOn session).2 = _
  cases (first.runOn session).1 <;> rfl

@[simp] theorem runOn_memory (session : Session Store Memory) :
    (memory : Program Store Memory Fault Memory).runOn session = (.ok session.memory, session) := rfl

/-- A handler starts in the state that the fault has left. -/
theorem runOn_tryCatch (body : Program Store Memory Fault α)
    (handler : Fault → Program Store Memory Fault α) (session : Session Store Memory) :
    (tryCatch body handler).runOn session =
      match (body.runOn session).1 with
      | .ok value => (.ok value, (body.runOn session).2)
      | .error fault => (handler fault).runOn (body.runOn session).2 := by
  change (match (body.runOn session).1 with
    | Except.ok value => (pure (Except.ok value) : StateM (Session Store Memory) (Except Fault α))
    | Except.error fault => ExceptT.run (handler fault)) (body.runOn session).2 = _
  cases (body.runOn session).1 <;> rfl

theorem works_pure (value : α) : Works before (pure value : Program Store Memory Fault α)
    fun result view => result = value ∧ before view := by
  intro session view opened holds
  refine ⟨rfl, rfl, fun result same => ⟨view, opened, ?_, holds⟩⟩
  exact (Except.ok.inj same).symm

theorem works_bind {first : Program Store Memory Fault α}
    {second : α → Program Store Memory Fault β} (starts : Works before first middle)
    (continues : ∀ value, Works (middle value) (second value) after) :
    Works before (first >>= second) after := by
  intro session view opened holds
  obtain ⟨sameStore, sameMemory, reached⟩ := starts session view opened holds
  rw [runOn_bind]
  cases result : (first.runOn session).1 with
  | error fault => exact ⟨sameStore, sameMemory, fun value impossible => nomatch impossible⟩
  | ok value =>
      obtain ⟨next, opened', holds'⟩ := reached value result
      obtain ⟨sameStore', sameMemory', reached'⟩ := continues value _ next opened' holds'
      exact ⟨sameStore'.trans sameStore, sameMemory'.trans sameMemory, reached'⟩

theorem works_memory : Works before (memory : Program Store Memory Fault Memory)
    fun _ view => before view :=
  fun _ view opened holds => ⟨rfl, rfl, fun _ _ => ⟨view, opened, holds⟩⟩

/-- A statement that succeeds moves the view as it says. -/
theorem works_executeUpdate {statement : Store → Except Fault Store} (after : Store → Prop)
    (moves : ∀ view next, before view → statement view = .ok next → after next) :
    Works before (executeUpdate statement : Program Store Memory Fault Unit)
      fun _ view => after view := by
  intro session view opened holds
  cases executed : statement view with
  | error fault =>
      have stopped : (executeUpdate statement : Program Store Memory Fault Unit).runOn session =
          (.error fault, session) := by
        simp [executeUpdate, runOn, ExceptT.run, ExceptT.mk, StateT.run, opened, executed]
      rw [stopped]
      exact ⟨rfl, rfl, fun value impossible => nomatch impossible⟩
  | ok next =>
      have done : (executeUpdate statement : Program Store Memory Fault Unit).runOn session =
          (.ok (), { session with working := some next }) := by
        simp [executeUpdate, runOn, ExceptT.run, ExceptT.mk, StateT.run, opened, executed]
      rw [done]
      exact ⟨rfl, rfl, fun _ _ => ⟨next, rfl, moves view next holds executed⟩⟩

theorem Works.weaken {program : Program Store Memory Fault β} {stronger : Store → Prop}
    {weaker : β → Store → Prop} (works : Works before program after)
    (starts : ∀ view, stronger view → before view)
    (ends : ∀ value view, after value view → weaker value view) :
    Works stronger program weaker := by
  intro session view opened holds
  obtain ⟨sameStore, sameMemory, reached⟩ := works session view opened (starts view holds)
  refine ⟨sameStore, sameMemory, fun value result => ?_⟩
  obtain ⟨next, opened', holds'⟩ := reached value result
  exact ⟨next, opened', ends value next holds'⟩

/-- A program that meets two postconditions meets both at once. -/
theorem Works.both {program : Program Store Memory Fault β} {other : β → Store → Prop}
    (first : Works before program after) (second : Works before program other) :
    Works before program fun value view => after value view ∧ other value view := by
  intro session view opened holds
  obtain ⟨sameStore, sameMemory, reached⟩ := first session view opened holds
  obtain ⟨-, -, reached'⟩ := second session view opened holds
  refine ⟨sameStore, sameMemory, fun value result => ?_⟩
  obtain ⟨next, opened', holds'⟩ := reached value result
  obtain ⟨next', opened'', holds''⟩ := reached' value result
  rw [opened', Option.some.injEq] at opened''
  subst opened''
  exact ⟨next, opened', holds', holds''⟩

/-- A loop with an accumulator keeps an invariant over the items that it has read. -/
theorem works_foldlM {Item : Type} (items : List Item)
    (body : α → Item → Program Store Memory Fault α) (start : α)
    (invariant : List Item → α → Store → Prop)
    (step : ∀ done item rest total, items = done ++ item :: rest →
      Works (invariant done total) (body total item) (invariant (done ++ [item]))) :
    Works (invariant [] start) (items.foldlM body start) (invariant items) := by
  have loop : ∀ rest done total, items = done ++ rest →
      Works (invariant done total) (rest.foldlM body total) (invariant items) := by
    intro rest
    induction rest with
    | nil =>
        intro done total split
        rw [List.append_nil] at split
        subst split
        exact (works_pure total).weaken (fun _ holds => holds) fun _ _ ends => ends.1 ▸ ends.2
    | cons item rest ih =>
        intro done total split
        rw [List.foldlM_cons]
        apply works_bind (step done item rest total split)
        intro next
        exact ih (done ++ [item]) next (by rw [split, List.append_assoc]; rfl)
  exact loop items [] start rfl

/-- A transaction either publishes what it has written and then changes the memory, or it leaves
the store and the memory as they were. -/
theorem runOn_transaction {writes : Program Store Memory Fault α} {after : α → Store → Prop}
    (session : Session Store Memory) (connectFault commitFault : Option Fault)
    (change : Memory → Memory) (works : Works (· = session.committed) writes after) :
    let outcome := runOn (withConnection do
      connect connectFault
      setAutoCommitFalse
      let _ ← writes
      commit commitFault
      remember change) session
    (∃ fault, outcome = (.error fault, { session with working := none })) ∨
      ∃ value view, after value view ∧ outcome = (.ok (), ⟨view, none, change session.memory⟩) := by
  cases connectFault with
  | some fault => exact .inl ⟨fault, rfl⟩
  | none =>
      obtain ⟨sameStore, sameMemory, reached⟩ := works
        { session with working := some session.committed } session.committed rfl rfl
      have opened : runOn (withConnection do
          connect none
          setAutoCommitFalse
          let _ ← writes
          commit commitFault
          remember change) session =
          let (result, after) := runOn (do
            let _ ← writes
            commit commitFault
            remember change) { session with working := some session.committed }
          (result, { after with working := none }) := rfl
      dsimp only
      rw [opened, runOn_bind]
      revert sameStore sameMemory reached
      generalize writes.runOn { session with working := some session.committed } = written
      obtain ⟨result, stopped, working, kept⟩ := written
      rintro rfl rfl reached
      cases result with
      | error fault => exact .inl ⟨fault, rfl⟩
      | ok value =>
          obtain ⟨view, rfl, holds⟩ := reached value rfl
          cases commitFault with
          | some fault => exact .inl ⟨fault, rfl⟩
          | none => exact .inr ⟨value, view, holds, rfl⟩

/-- A transaction that changes no memory. -/
theorem runOn_transaction_plain {writes : Program Store Memory Fault α} {after : α → Store → Prop}
    (session : Session Store Memory) (connectFault commitFault : Option Fault)
    (works : Works (· = session.committed) writes after) :
    let outcome := runOn (withConnection do
      connect connectFault
      setAutoCommitFalse
      let _ ← writes
      commit commitFault) session
    (∃ fault, outcome = (.error fault, { session with working := none })) ∨
      ∃ value view, after value view ∧ outcome = (.ok (), ⟨view, none, session.memory⟩) := by
  have remembered : (commit commitFault : Program Store Memory Fault Unit) =
      (commit commitFault >>= fun _ => remember id) := by
    cases commitFault <;> rfl
  rw [remembered]
  exact runOn_transaction session connectFault commitFault id works

/-- Without a transaction a statement either reaches the store at once, or nothing changes. -/
theorem runOn_autoCommit (session : Session Store Memory) (connectFault : Option Fault)
    (statement : Store → Except Fault Store) (change : Memory → Memory) :
    let outcome := runOn (withConnection do
      connect connectFault
      executeUpdate statement
      remember change) session
    (∃ fault, outcome = (.error fault, { session with working := none })) ∨
      ∃ next, statement session.committed = .ok next ∧
        outcome = (.ok (), ⟨next, none, change session.memory⟩) := by
  cases connectFault with
  | some fault => exact .inl ⟨fault, rfl⟩
  | none =>
      have opened : runOn (withConnection do
          connect none
          executeUpdate statement
          remember change) session =
          let (result, after) := runOn (do
            executeUpdate statement
            remember change) { session with working := none }
          (result, { after with working := none }) := rfl
      have run : runOn (executeUpdate statement) { session with working := none } =
          match statement session.committed with
          | .ok next => (.ok (), ⟨next, none, session.memory⟩)
          | .error fault => (.error fault, { session with working := none }) := rfl
      dsimp only
      rw [opened, runOn_bind, run]
      cases executed : statement session.committed with
      | error fault => exact .inl ⟨fault, rfl⟩
      | ok next => exact .inr ⟨next, rfl, rfl⟩

end Rules

end Program

end OdsPipeline.Library
