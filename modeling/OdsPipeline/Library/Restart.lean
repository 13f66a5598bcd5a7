import OdsPipeline.Library.Redelivery

/-
This file follows a sink whose reader can go back to any earlier record of a growing log.
-/

namespace OdsPipeline.Library.InsertSelect

variable {Time Source Sink Key Data : Type*} [DecidableEq Key]
  (statement : InsertSelect Time Source Sink Key) (data : Sink → Data) (dataKey : Data → Key)
  (transform : Source → Data)

/-- The data that one reading leaves at a key. -/
def readOnce (part : List (Change Source)) (key : Key) : Option Data :=
  (statement.lastEffect dataKey transform part key).getD none

/-- The sink has the data of one reading at each key that the records ahead do not touch. -/
def Agrees (read ahead : List (Change Source)) (table : KeyedTable statement.primaryKey) : Prop :=
  ∀ key, statement.lastEffect dataKey transform ahead key = none →
    (table.lookup key).map data = statement.readOnce dataKey transform read key

/-- The reader has gone to a position of the log, and back again from some later one. -/
def ReadTo (log : List (Change Source)) (position : Nat) (table : KeyedTable statement.primaryKey) :
    Prop :=
  ∃ read ahead rest, log = read ++ (ahead ++ rest) ∧ read.length = position ∧
    Agrees statement data dataKey transform read ahead table

section Steps
variable {statement data dataKey transform}

theorem lastEffect_singleton (change : Change Source) (key : Key) :
    statement.lastEffect dataKey transform [change] key =
      statement.effect dataKey transform key change := by
  unfold lastEffect
  cases touched : statement.effect dataKey transform key change <;> simp [touched]

/-- A reader that goes back leaves the touched keys to the records that it reads again. -/
theorem Agrees.rewind {first second ahead : List (Change Source)}
    {table : KeyedTable statement.primaryKey}
    (agrees : Agrees statement data dataKey transform (first ++ second) ahead table) :
    Agrees statement data dataKey transform first (second ++ ahead) table := by
  intro key untouched
  rw [lastEffect_append, Option.or_eq_none_iff] at untouched
  rw [agrees key untouched.1, readOnce, lastEffect_append, untouched.2, Option.none_or]
  rfl

/-- A record is read for the first time, or again. -/
theorem Agrees.read (keeps : statement.KeepsData data dataKey transform)
    {read ahead later : List (Change Source)} {table : KeyedTable statement.primaryKey}
    (agrees : Agrees statement data dataKey transform read ahead table) (now : Time)
    (next : Change Source) (follows : ahead = [] ∧ later = [] ∨ ahead = next :: later) :
    Agrees statement data dataKey transform (read ++ [next]) later
      (statement.deliver true table [(now, next)]) := by
  intro key untouched
  rw [data_deliver_one keeps, readOnce, lastEffect_append, lastEffect_singleton]
  cases touched : statement.effect dataKey transform key next with
  | some left => rfl
  | none =>
      rw [Option.none_or, Option.getD_none]
      apply agrees
      rcases follows with ⟨rfl, rfl⟩ | rfl
      · exact untouched
      · rw [← List.singleton_append, lastEffect_append, lastEffect_singleton, untouched, touched]
        rfl

theorem readTo_start : ReadTo statement data dataKey transform [] 0 (KeyedTable.empty _) :=
  ⟨[], [], [], rfl, rfl, fun _ _ => rfl⟩

theorem ReadTo.grows {log : List (Change Source)} {position : Nat}
    {table : KeyedTable statement.primaryKey}
    (reached : ReadTo statement data dataKey transform log position table)
    (more : List (Change Source)) :
    ReadTo statement data dataKey transform (log ++ more) position table := by
  obtain ⟨read, ahead, rest, rfl, length, agrees⟩ := reached
  refine ⟨read, ahead, rest ++ more, ?_, length, agrees⟩
  rw [List.append_assoc, List.append_assoc]

theorem ReadTo.rewind {log : List (Change Source)} {position : Nat}
    {table : KeyedTable statement.primaryKey}
    (reached : ReadTo statement data dataKey transform log position table) (earlier : Nat)
    (back : earlier ≤ position) :
    ReadTo statement data dataKey transform log earlier table := by
  obtain ⟨read, ahead, rest, rfl, rfl, agrees⟩ := reached
  refine ⟨read.take earlier, read.drop earlier ++ ahead, rest, ?_, ?_, ?_⟩
  · rw [← List.append_assoc (List.take _ _), ← List.append_assoc (List.take _ _),
      List.take_append_drop, List.append_assoc]
  · rw [List.length_take, Nat.min_eq_left back]
  · apply Agrees.rewind
    rwa [List.take_append_drop]

theorem ReadTo.reads (keeps : statement.KeepsData data dataKey transform)
    {log : List (Change Source)} {position : Nat} {table : KeyedTable statement.primaryKey}
    (reached : ReadTo statement data dataKey transform log position table) (now : Time)
    (next : Change Source) (found : log[position]? = some next) :
    ReadTo statement data dataKey transform log (position + 1)
      (statement.deliver true table [(now, next)]) := by
  obtain ⟨read, ahead, rest, rfl, rfl, agrees⟩ := reached
  rw [List.getElem?_append_right (Nat.le_refl _), Nat.sub_self] at found
  cases ahead with
  | nil =>
      cases rest with
      | nil => cases found
      | cons first rest =>
          cases found
          refine ⟨read ++ [next], [], rest, ?_, List.length_append, ?_⟩
          · rw [List.append_assoc]
            rfl
          · exact agrees.read keeps now next (.inl ⟨rfl, rfl⟩)
  | cons first ahead =>
      cases found
      refine ⟨read ++ [next], ahead, rest, ?_, List.length_append, ?_⟩
      · rw [List.append_assoc]
        rfl
      · exact agrees.read keeps now next (.inr rfl)

/-- The first of some records that come next is the next one. -/
theorem cons_prefix_drop_iff {Record : Type*} {log rest : List Record} {position : Nat}
    {next : Record} : next :: rest <+: log.drop position ↔
      log[position]? = some next ∧ rest <+: log.drop (position + 1) := by
  rw [← List.tail_drop, ← List.head?_drop]
  cases log.drop position with
  | nil => simp
  | cons first others =>
      rw [List.cons_prefix_cons, List.head?_cons, List.tail_cons, Option.some.injEq, eq_comm]

theorem ReadTo.readsAll (keeps : statement.KeepsData data dataKey transform)
    {log : List (Change Source)} (records : List (Time × Change Source)) {position : Nat}
    {table : KeyedTable statement.primaryKey}
    (reached : ReadTo statement data dataKey transform log position table)
    (found : records.map Prod.snd <+: log.drop position) :
    ReadTo statement data dataKey transform log (position + records.length)
      (statement.deliver true table records) := by
  induction records generalizing position table with
  | nil => exact reached
  | cons record rest ih =>
      obtain ⟨next, later⟩ := cons_prefix_drop_iff.mp found
      have size : position + 1 + rest.length = position + (record :: rest).length := by
        rw [List.length_cons]
        omega
      rw [deliver_cons, ← size]
      exact ih (reached.reads keeps record.1 record.2 next) later

/-- A reader at the end of the log has left the data of one reading, at whatever times. -/
theorem ReadTo.perm (keeps : statement.KeepsData data dataKey transform)
    {log : List (Change Source)} {table : KeyedTable statement.primaryKey}
    (reached : ReadTo statement data dataKey transform log log.length table)
    (records : List (Time × Change Source)) (once : records.map Prod.snd = log) :
    (table.rows.map data).Perm
      ((statement.deliver true (KeyedTable.empty _) records).rows.map data) := by
  obtain ⟨read, ahead, rest, whole, length, agrees⟩ := reached
  have nothing : (ahead ++ rest).length = 0 := by
    have sum := congrArg List.length whole
    rw [List.length_append] at sum
    omega
  obtain ⟨rfl, rfl⟩ := List.append_eq_nil_iff.mp (List.length_eq_zero_iff.mp nothing)
  rw [List.append_nil, List.append_nil] at whole
  rw [data_perm_iff keeps]
  intro key
  rw [data_deliver keeps, once, whole]
  exact agrees key rfl

end Steps

end OdsPipeline.Library.InsertSelect
