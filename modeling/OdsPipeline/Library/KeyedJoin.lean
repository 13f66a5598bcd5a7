import OdsPipeline.Library.KeyedTable
import OdsPipeline.Library.RowOrder

/-
This file joins rows with the keyed tables that they refer to.
-/

namespace OdsPipeline.Library

section Lookup
variable {Row Key : Type*} {keyOf : Row → Key} [DecidableEq Key]

/-- At most one row of a keyed table has a key. -/
theorem KeyedTable.filter_key (table : KeyedTable keyOf) (key : Key) :
    table.rows.filter (fun row => keyOf row = key) = (table.lookup key).toList := by
  cases found : table.lookup key with
  | none =>
      apply List.filter_eq_nil_iff.mpr
      intro row stored same
      exact (table.lookup_eq_none_iff key).mp found row stored (of_decide_eq_true same)
  | some row =>
      obtain ⟨stored, isKey⟩ := table.lookup_eq_some key row found
      apply List.perm_singleton.mp
      apply (List.perm_ext_iff_of_nodup (table.nodup_rows.filter _) (List.nodup_singleton row)).mpr
      intro other
      rw [List.mem_filter, List.mem_singleton, decide_eq_true_eq]
      constructor
      · rintro ⟨member, same⟩
        exact List.inj_on_of_nodup_map table.distinct member stored (same.trans isKey.symm)
      · rintro rfl
        exact ⟨stored, isKey⟩

/-- The row at a key passes a test when some row with this key does. -/
theorem KeyedTable.any_lookup (table : KeyedTable keyOf) (key : Key) (test : Row → Bool) :
    (table.lookup key).any test = table.rows.any fun row => decide (keyOf row = key) && test row := by
  have row := congrArg (List.any · test) (table.filter_key key)
  rw [List.any_filter] at row
  rw [row]
  cases table.lookup key with
  | none => rfl
  | some found => exact (Bool.or_false _).symm

end Lookup

section Joins
variable {Fact First Second : Type} {FirstKey SecondKey : Type*} [DecidableEq FirstKey]
  [DecidableEq SecondKey] {firstKey : First → FirstKey} {secondKey : Second → SecondKey}

/-- A join with a keyed table looks up one row for each left row. -/
theorem join_keyed (rows : List Fact) (table : KeyedTable secondKey) (ref : Fact → SecondKey) :
    join rows table.rows (fun row other => ref row = secondKey other) =
      rows.filterMap fun row => (table.lookup (ref row)).map fun other => (row, other) := by
  induction rows with
  | nil => rfl
  | cons row rest ih =>
      have matching := table.filter_key (ref row)
      simp only [eq_comm (b := ref row)] at matching
      have split : join (row :: rest) table.rows (fun row other => ref row = secondKey other) =
          ((table.rows.filter fun other => ref row = secondKey other).map fun other => (row, other)) ++
            join rest table.rows (fun row other => ref row = secondKey other) := rfl
      rw [split, matching, ih]
      cases found : table.lookup (ref row) with
      | none => simp [found]
      | some other => simp [found]

/-- A right row adds its matching left rows to a join. -/
theorem join_cons_right_perm (left : List First) (row : Fact) (rest : List Fact)
    (on : First → Fact → Bool) :
    (join left (row :: rest) on).Perm
      ((left.filter fun other => on other row).map (fun other => (other, row)) ++
        join left rest on) := by
  have own : ((left.filter fun other => on other row).map fun other => (other, row)) =
      left.flatMap fun other => if on other row = true then [(other, row)] else [] := by
    induction left with
    | nil => rfl
    | cons other later ih =>
        rw [List.filter_cons, List.flatMap_cons, ← ih]
        split <;> rfl
  rw [own]
  refine List.Perm.trans (List.Perm.of_eq ?_) (List.flatMap_append_perm left _ _).symm
  apply List.flatMap_congr
  intro other _
  rw [List.filter_cons]
  split <;> rfl

/-- A keyed table on the left side looks up one row for each right row. -/
theorem keyed_join_perm (table : KeyedTable firstKey) (rows : List Fact) (ref : Fact → FirstKey) :
    (join table.rows rows fun row other => firstKey row = ref other).Perm
      (rows.filterMap fun other => (table.lookup (ref other)).map fun row => (row, other)) := by
  induction rows with
  | nil => simp [join]
  | cons row rest ih =>
      apply (join_cons_right_perm table.rows row rest _).trans
      rw [table.filter_key (ref row)]
      cases found : table.lookup (ref row) with
      | none => simpa [found] using ih
      | some other => simpa [found] using ih

variable (first : KeyedTable firstKey) (second : KeyedTable secondKey)
  (refFirst : Fact → FirstKey) (refSecond : Fact → SecondKey)

/-- A row with the two rows that it refers to. -/
def resolve (row : Fact) : Option ((First × Fact) × Second) := do
  return ((← first.lookup (refFirst row), row), ← second.lookup (refSecond row))

/-- The two rows that a row refers to pass their tests. -/
def refersTo (keepFirst : First → Bool) (keepSecond : Second → Bool) (row : Fact) : Bool :=
  (first.rows.any fun one => firstKey one = refFirst row && keepFirst one) &&
    second.rows.any fun other => secondKey other = refSecond row && keepSecond other

/-- A join with two keyed tables looks up two rows for each row. -/
theorem join_join_perm (rows : List Fact) :
    (join (join first.rows rows fun one row => firstKey one = refFirst row) second.rows
      fun line other => refSecond line.2 = secondKey other).Perm
      (rows.filterMap (resolve first second refFirst refSecond)) := by
  have lines := keyed_join_perm first rows refFirst
  apply (join_perm _ lines (List.Perm.refl _)).trans
  rw [join_keyed _ second fun line : First × Fact => refSecond line.2, List.filterMap_filterMap]
  apply List.Perm.of_eq
  apply List.filterMap_congr
  intro row _
  rw [resolve]
  cases first.lookup (refFirst row) with
  | none => rfl
  | some one =>
      cases found : second.lookup (refSecond row) with
      | none => simp [found]
      | some other => simp [found]

/-- The sum over a join with two keyed tables is a sum over the rows that they keep. -/
theorem sumOf_join_join (rows : List Fact) (keepFirst : First → Bool) (keep : Fact → Bool)
    (keepSecond : Second → Bool) (value : Fact → ℚ) :
    sumOf (fun line => value line.1.2)
        ((join (join first.rows rows fun one row => firstKey one = refFirst row) second.rows
          fun line other => refSecond line.2 = secondKey other).filter fun line =>
            keepFirst line.1.1 && keep line.1.2 && keepSecond line.2) =
      sumOf value (rows.filter fun row => keep row &&
        refersTo first second refFirst refSecond keepFirst keepSecond row) := by
  rw [sumOf_perm ((join_join_perm first second refFirst refSecond rows).filter _)]
  induction rows with
  | nil => rfl
  | cons row rest ih =>
      have one := first.any_lookup (refFirst row) keepFirst
      have other := second.any_lookup (refSecond row) keepSecond
      rw [List.filter_cons, refersTo, ← one, ← other]
      cases foundOne : first.lookup (refFirst row) with
      | none => simpa [resolve, foundOne] using ih
      | some one =>
          cases foundOther : second.lookup (refSecond row) with
          | none => simpa [resolve, foundOne, foundOther] using ih
          | some other =>
              rw [List.filterMap_cons_some (b := ((one, row), other)) (by
                rw [resolve, foundOne, foundOther]; rfl), List.filter_cons]
              have same : (keepFirst one && keep row && keepSecond other) =
                  (keep row && (keepFirst one && keepSecond other)) := by
                rw [Bool.and_comm (keepFirst one), Bool.and_assoc]
              rw [Option.any_some, Option.any_some, same]
              split
              · exact congrArg (value row + ·) ih
              · exact ih

end Joins

end OdsPipeline.Library
