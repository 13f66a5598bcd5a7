import OdsPipeline.Library.Mirror

/-
This file says which records leave a row in a keyed sink.
-/

namespace OdsPipeline.Library

namespace InsertSelect
variable {Time Source Sink Key : Type*}

/-- A selected +I or +U record writes its key. -/
def Writes (statement : InsertSelect Time Source Sink Key) (key : Key)
    (record : Time × Change Source) : Prop :=
  (record.2.kind = .insert ∨ record.2.kind = .updateAfter) ∧ statement.Selects record.2.row ∧
    statement.primaryKey (statement.select record.1 record.2.row) = key

/-- A selected -D record retracts its key, and so does a -U record that is not ignored. -/
def Retracts (statement : InsertSelect Time Source Sink Key) (ignoreUpdateBefore : Bool)
    (key : Key) (record : Time × Change Source) : Prop :=
  (record.2.kind = .delete ∨ record.2.kind = .updateBefore ∧ ignoreUpdateBefore = false) ∧
    statement.Selects record.2.row ∧
      statement.primaryKey (statement.select record.1 record.2.row) = key

variable [DecidableEq Key]

instance (statement : InsertSelect Time Source Sink Key) (key : Key)
    (record : Time × Change Source) : Decidable (statement.Writes key record) :=
  inferInstanceAs (Decidable (_ ∧ _ ∧ _))

instance (statement : InsertSelect Time Source Sink Key) (ignoreUpdateBefore : Bool) (key : Key)
    (record : Time × Change Source) : Decidable (statement.Retracts ignoreUpdateBefore key record) :=
  inferInstanceAs (Decidable (_ ∧ _ ∧ _))

/-- One record writes its key, retracts its key or changes nothing. -/
theorem lookup_deliver_one (statement : InsertSelect Time Source Sink Key)
    (ignoreUpdateBefore : Bool) (table : KeyedTable statement.primaryKey)
    (record : Time × Change Source) (key : Key) :
    (statement.deliver ignoreUpdateBefore table [record]).lookup key =
      if statement.Writes key record then some (statement.select record.1 record.2.row)
      else if statement.Retracts ignoreUpdateBefore key record then none
      else table.lookup key := by
  obtain ⟨now, ⟨kind, row⟩⟩ := record
  by_cases selected : statement.Selects row
  · cases kind <;> cases ignoreUpdateBefore <;>
      simp [deliver, sinkOps, sinkOp, selected, Writes, Retracts, KeyedTable.applyAll,
        KeyedTable.apply, KeyedTable.lookup_upsert, KeyedTable.lookup_delete, eq_comm]
  · simp [deliver_of_not_selects, selected, Writes, Retracts]

/-- A key keeps its row while no record writes or retracts it. -/
theorem lookup_deliver_of_untouched (statement : InsertSelect Time Source Sink Key)
    (ignoreUpdateBefore : Bool) (table : KeyedTable statement.primaryKey)
    (records : List (Time × Change Source)) (key : Key)
    (untouched : ∀ record ∈ records, ¬ statement.Writes key record ∧
      ¬ statement.Retracts ignoreUpdateBefore key record) :
    (statement.deliver ignoreUpdateBefore table records).lookup key = table.lookup key := by
  induction records using List.reverseRecOn with
  | nil => rfl
  | append_singleton records last ih =>
      rw [List.forall_mem_append, List.forall_mem_singleton] at untouched
      obtain ⟨earlier, writes, retracts⟩ := untouched
      rw [deliver_append, lookup_deliver_one, if_neg writes, if_neg retracts]
      exact ih earlier

/-- A key has a row exactly when some record wrote it and no later record retracted it. -/
theorem lookup_deliver_ne_none_iff (statement : InsertSelect Time Source Sink Key)
    (ignoreUpdateBefore : Bool) (records : List (Time × Change Source)) (key : Key) :
    (statement.deliver ignoreUpdateBefore (KeyedTable.empty _) records).lookup key ≠ none ↔
      ∃ before record after, records = before ++ record :: after ∧ statement.Writes key record ∧
        ∀ later ∈ after, ¬ statement.Retracts ignoreUpdateBefore key later := by
  induction records using List.reverseRecOn with
  | nil => simp
  | append_singleton records last ih =>
      rw [deliver_append, lookup_deliver_one]
      by_cases writes : statement.Writes key last
      · rw [if_pos writes]
        exact iff_of_true (by simp) ⟨records, last, [], rfl, writes, by simp⟩
      rw [if_neg writes]
      -- A surviving write stands before the last record.
      have earlier (before : List (Time × Change Source)) (record : Time × Change Source)
          (after : List (Time × Change Source)) (split : records ++ [last] = before ++ record :: after)
          (written : statement.Writes key record) :
          ∃ rest, after = rest ++ [last] ∧ records = before ++ record :: rest := by
        rcases List.eq_nil_or_concat after with rfl | ⟨rest, final, rfl⟩
        · obtain ⟨rfl, same⟩ := List.append_inj' split rfl
          rw [List.singleton_inj] at same
          exact absurd (same ▸ written) writes
        · rw [List.concat_eq_append, ← List.cons_append, ← List.append_assoc] at split
          obtain ⟨same, final⟩ := List.append_inj' split rfl
          rw [List.singleton_inj] at final
          exact ⟨rest, by rw [List.concat_eq_append, final], same⟩
      by_cases retracts : statement.Retracts ignoreUpdateBefore key last
      · rw [if_pos retracts]
        refine iff_of_false (by simp) ?_
        rintro ⟨before, record, after, split, written, kept⟩
        obtain ⟨rest, rfl, -⟩ := earlier before record after split written
        exact kept last (by simp) retracts
      · rw [if_neg retracts, ih]
        constructor
        · rintro ⟨before, record, after, rfl, written, kept⟩
          refine ⟨before, record, after ++ [last], by simp, written, ?_⟩
          intro later member
          rcases List.mem_append.mp member with old | new
          · exact kept later old
          · rw [List.mem_singleton.mp new]
            exact retracts
        · rintro ⟨before, record, after, split, written, kept⟩
          obtain ⟨rest, rfl, same⟩ := earlier before record after split written
          exact ⟨before, record, rest, same, written, fun later member =>
            kept later (List.mem_append_left _ member)⟩

/-- Each row of the sink is the image of a selected +I or +U record. -/
theorem mem_deliver (statement : InsertSelect Time Source Sink Key) (ignoreUpdateBefore : Bool)
    (records : List (Time × Change Source)) (row : Sink)
    (member : row ∈ (statement.deliver ignoreUpdateBefore (KeyedTable.empty _) records).rows) :
    ∃ record ∈ records, statement.Writes (statement.primaryKey row) record ∧
      row = statement.select record.1 record.2.row := by
  rw [KeyedTable.mem_rows_iff] at member
  induction records using List.reverseRecOn with
  | nil => simp at member
  | append_singleton records last ih =>
      rw [deliver_append, lookup_deliver_one] at member
      by_cases writes : statement.Writes (statement.primaryKey row) last
      · rw [if_pos writes] at member
        exact ⟨last, by simp, writes, (Option.some.inj member).symm⟩
      rw [if_neg writes] at member
      by_cases retracts : statement.Retracts ignoreUpdateBefore (statement.primaryKey row) last
      · rw [if_pos retracts] at member
        exact absurd member (by simp)
      · rw [if_neg retracts] at member
        obtain ⟨record, old, written, same⟩ := ih member
        exact ⟨record, List.mem_append_left _ old, written, same⟩

/-- A key that no record retracts holds the image of its last write. -/
theorem lookup_deliver_last_write (statement : InsertSelect Time Source Sink Key)
    (ignoreUpdateBefore : Bool) (records : List (Time × Change Source)) (key : Key)
    (kept : ∀ record ∈ records, ¬ statement.Retracts ignoreUpdateBefore key record) :
    (statement.deliver ignoreUpdateBefore (KeyedTable.empty _) records).lookup key =
      (records.filter fun record => statement.Writes key record).getLast?.map fun record =>
        statement.select record.1 record.2.row := by
  induction records using List.reverseRecOn with
  | nil => rfl
  | append_singleton records last ih =>
      rw [List.forall_mem_append, List.forall_mem_singleton] at kept
      rw [deliver_append, lookup_deliver_one, List.filter_append]
      by_cases writes : statement.Writes key last
      · have added : [last].filter (fun record => statement.Writes key record) = [last] := by
          simp [writes]
        rw [if_pos writes, added, List.getLast?_concat]
        rfl
      · have skipped : [last].filter (fun record => statement.Writes key record) = [] := by
          simp [writes]
        rw [if_neg writes, if_neg kept.2, skipped, List.append_nil]
        exact ih kept.1

end InsertSelect

end OdsPipeline.Library
