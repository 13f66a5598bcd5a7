import Mathlib.Data.List.Dedup
import OdsPipeline.Library.Survival

/-
This file lists the keys that a keyed sink holds after any stream of records.
-/

namespace OdsPipeline.Library

namespace InsertSelect
variable {Time Source Sink Key : Type*} [DecidableEq Key]
  (statement : InsertSelect Time Source Sink Key) (ignoreUpdateBefore : Bool)

/-- A record writes or retracts the key. -/
def Touches (key : Key) (record : Time × Change Source) : Prop :=
  statement.Writes key record ∨ statement.Retracts ignoreUpdateBefore key record

instance (key : Key) (record : Time × Change Source) :
    Decidable (statement.Touches ignoreUpdateBefore key record) :=
  inferInstanceAs (Decidable (_ ∨ _))

/-- The last record that touches the key writes it. -/
def Stands (records : List (Time × Change Source)) (key : Key) : Prop :=
  ∃ last ∈ (records.filter fun record => statement.Touches ignoreUpdateBefore key record).getLast?,
    statement.Writes key last

instance (records : List (Time × Change Source)) (key : Key) :
    Decidable (statement.Stands ignoreUpdateBefore records key) :=
  inferInstanceAs (Decidable (∃ last ∈ List.getLast? _, _))

/-- The keys of the selected records. -/
def selectedKeys (records : List (Time × Change Source)) : List Key :=
  (records.filter fun record => statement.Selects record.2.row).map fun record =>
    statement.primaryKey (statement.select record.1 record.2.row)

/-- The keys that stand, each of them once. -/
def standingKeys (records : List (Time × Change Source)) : List Key :=
  (statement.selectedKeys records).dedup.filter fun key =>
    statement.Stands ignoreUpdateBefore records key

/-- A key has a row exactly when it stands. -/
theorem stands_iff (records : List (Time × Change Source)) (key : Key) :
    statement.Stands ignoreUpdateBefore records key ↔
      (statement.deliver ignoreUpdateBefore (KeyedTable.empty _) records).lookup key ≠ none := by
  induction records using List.reverseRecOn with
  | nil => simp [Stands]
  | append_singleton records last ih =>
      rw [deliver_append, lookup_deliver_one, Stands, List.filter_append]
      by_cases touches : statement.Touches ignoreUpdateBefore key last
      · have added : [last].filter (fun record =>
            statement.Touches ignoreUpdateBefore key record) = [last] := by simp [touches]
        rw [added, List.getLast?_concat]
        by_cases writes : statement.Writes key last
        · rw [if_pos writes]
          exact iff_of_true ⟨last, rfl, writes⟩ (by simp)
        · rw [if_neg writes, if_pos (touches.resolve_left writes)]
          refine iff_of_false ?_ (by simp)
          rintro ⟨same, found, written⟩
          exact writes (Option.some.inj found ▸ written)
      · have skipped : [last].filter (fun record =>
            statement.Touches ignoreUpdateBefore key record) = [] := by simp [touches]
        rw [skipped, List.append_nil, if_neg fun writes => touches (.inl writes),
          if_neg fun retracts => touches (.inr retracts)]
        exact ih

theorem mem_selectedKeys_of_stands (records : List (Time × Change Source)) (key : Key)
    (stands : statement.Stands ignoreUpdateBefore records key) :
    key ∈ statement.selectedKeys records := by
  obtain ⟨last, found, -, selected, rfl⟩ := stands
  have member := List.mem_of_mem_filter (List.mem_of_getLast? found)
  exact List.mem_map.mpr ⟨last, List.mem_filter.mpr ⟨member, decide_eq_true selected⟩, rfl⟩

theorem mem_standingKeys (records : List (Time × Change Source)) (key : Key) :
    key ∈ statement.standingKeys ignoreUpdateBefore records ↔
      statement.Stands ignoreUpdateBefore records key := by
  rw [standingKeys, List.mem_filter, List.mem_dedup, decide_eq_true_eq]
  constructor
  · intro member
    exact member.2
  · intro stands
    exact ⟨statement.mem_selectedKeys_of_stands ignoreUpdateBefore records key stands, stands⟩

/-- Records that do not touch a key leave it standing. -/
theorem stands_append (records more : List (Time × Change Source)) (key : Key)
    (untouched : ∀ record ∈ more, ¬ statement.Touches ignoreUpdateBefore key record)
    (stands : statement.Stands ignoreUpdateBefore records key) :
    statement.Stands ignoreUpdateBefore (records ++ more) key := by
  have none : more.filter (fun record => statement.Touches ignoreUpdateBefore key record) = [] := by
    rw [List.filter_eq_nil_iff]
    intro record member touches
    exact untouched record member (of_decide_eq_true touches)
  rw [Stands, List.filter_append, none, List.append_nil]
  exact stands

/-- Records that touch no standing key can only add keys. -/
theorem length_standingKeys_le (records more : List (Time × Change Source)) (keep : Key → Bool)
    (untouched : ∀ key, statement.Stands ignoreUpdateBefore records key →
      ∀ record ∈ more, ¬ statement.Touches ignoreUpdateBefore key record) :
    ((statement.standingKeys ignoreUpdateBefore records).filter keep).length ≤
      ((statement.standingKeys ignoreUpdateBefore (records ++ more)).filter keep).length := by
  have distinct : (statement.standingKeys ignoreUpdateBefore records).Nodup :=
    (List.nodup_dedup _).filter _
  have kept : statement.standingKeys ignoreUpdateBefore records ⊆
      statement.standingKeys ignoreUpdateBefore (records ++ more) := by
    intro key member
    rw [mem_standingKeys] at member ⊢
    exact statement.stands_append ignoreUpdateBefore records more key (untouched key member) member
  exact ((List.subperm_of_subset distinct kept).filter _).length_le

/-- A key stands after more records only if it stood before or one of them writes it. -/
theorem stands_or_selected (records more : List (Time × Change Source)) (key : Key)
    (stands : statement.Stands ignoreUpdateBefore (records ++ more) key) :
    statement.Stands ignoreUpdateBefore records key ∨ key ∈ statement.selectedKeys more := by
  obtain ⟨last, found, written⟩ := stands
  rw [List.filter_append, List.getLast?_append, Option.mem_def, Option.or_eq_some_iff] at found
  rcases found with late | ⟨-, early⟩
  · exact .inr (statement.mem_selectedKeys_of_stands ignoreUpdateBefore more key
      ⟨last, late, written⟩)
  · exact .inl ⟨last, early, written⟩

/-- More records add at most one key for each selected one. -/
theorem length_standingKeys_append_le (records more : List (Time × Change Source))
    (keep : Key → Bool) :
    ((statement.standingKeys ignoreUpdateBefore (records ++ more)).filter keep).length ≤
      ((statement.standingKeys ignoreUpdateBefore records).filter keep).length +
        (statement.selectedKeys more).length := by
  have distinct : (statement.standingKeys ignoreUpdateBefore (records ++ more)).Nodup :=
    (List.nodup_dedup _).filter _
  have either : statement.standingKeys ignoreUpdateBefore (records ++ more) ⊆
      statement.standingKeys ignoreUpdateBefore records ++ statement.selectedKeys more := by
    intro key member
    rw [mem_standingKeys] at member
    rw [List.mem_append, mem_standingKeys]
    exact statement.stands_or_selected ignoreUpdateBefore records more key member
  have fewer := ((List.subperm_of_subset distinct either).filter keep).length_le
  rw [List.filter_append, List.length_append] at fewer
  exact Nat.le_trans fewer (Nat.add_le_add_left (List.length_filter_le _ _) _)

/-- The sink holds one row for each key that stands. -/
theorem keys_deliver (records : List (Time × Change Source)) :
    ((statement.deliver ignoreUpdateBefore (KeyedTable.empty _) records).rows.map
      statement.primaryKey).Perm (statement.standingKeys ignoreUpdateBefore records) := by
  apply (List.perm_ext_iff_of_nodup
    (statement.deliver ignoreUpdateBefore (KeyedTable.empty _) records).distinct
    ((List.nodup_dedup _).filter _)).mpr
  intro key
  rw [← standingKeys, mem_standingKeys, stands_iff, Ne, KeyedTable.lookup_eq_none_iff,
    List.mem_map]
  push Not
  rfl

/-- A test of the keys counts the rows that pass it. -/
theorem length_filter_deliver (records : List (Time × Change Source)) (test : Sink → Bool)
    (keep : Key → Bool)
    (tested : ∀ row ∈ (statement.deliver ignoreUpdateBefore (KeyedTable.empty _) records).rows,
      test row = keep (statement.primaryKey row)) :
    ((statement.deliver ignoreUpdateBefore (KeyedTable.empty _) records).rows.filter test).length =
      ((statement.standingKeys ignoreUpdateBefore records).filter keep).length := by
  rw [List.filter_congr tested]
  have kept := ((statement.keys_deliver ignoreUpdateBefore records).filter keep).length_eq
  rw [List.filter_map, List.length_map] at kept
  exact kept

end InsertSelect

end OdsPipeline.Library
