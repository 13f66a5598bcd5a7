import Mathlib.Algebra.BigOperators.Group.List.Basic
import Mathlib.Algebra.Order.BigOperators.Group.List
import Mathlib.Algebra.Order.Field.Rat
import Mathlib.Data.List.Dedup
import Mathlib.Data.Rat.Floor
import OdsPipeline.Library.Truth

/-
This file gives lists of rows the joins, groups and aggregates of SQL.
-/

namespace OdsPipeline.Library

section Join
variable {Left Right : Type*}

/-- An inner join pairs each left row with its matching right rows. -/
def join (left : List Left) (right : List Right) (on : Left → Right → Bool) : List (Left × Right) :=
  left.flatMap fun row => (right.filter (on row)).map fun other => (row, other)

theorem mem_join (left : List Left) (right : List Right) (on : Left → Right → Bool)
    (pair : Left × Right) :
    pair ∈ join left right on ↔ pair.1 ∈ left ∧ pair.2 ∈ right ∧ on pair.1 pair.2 = true := by
  rcases pair with ⟨row, other⟩
  simp only [join, List.mem_flatMap, List.mem_map, List.mem_filter, Prod.mk.injEq]
  constructor
  · rintro ⟨row', inLeft, other', ⟨inRight, holds⟩, rfl, rfl⟩
    exact ⟨inLeft, inRight, holds⟩
  · rintro ⟨inLeft, inRight, holds⟩
    exact ⟨row, inLeft, other, ⟨inRight, holds⟩, rfl, rfl⟩

/-- Conditions on either side of a join move into the joined lists. -/
theorem filter_join (left : List Left) (right : List Right) (on : Left → Right → Bool)
    (first : Left → Bool) (second : Right → Bool) :
    (join left right on).filter (fun pair => first pair.1 && second pair.2) =
      join (left.filter first) (right.filter second) on := by
  induction left with
  | nil => rfl
  | cons row rest ih =>
      have split : join (row :: rest) right on =
          ((right.filter (on row)).map fun other => (row, other)) ++ join rest right on := rfl
      rw [split, List.filter_append, ih, List.filter_map, List.filter_filter]
      cases holds : first row with
      | true =>
          rw [List.filter_cons_of_pos holds]
          simp [join, holds, List.filter_filter, Bool.and_comm]
      | false =>
          rw [List.filter_cons_of_neg (by simp [holds])]
          simp [holds]

theorem filter_join_left (left : List Left) (right : List Right) (on : Left → Right → Bool)
    (first : Left → Bool) :
    (join left right on).filter (fun pair => first pair.1) = join (left.filter first) right on := by
  have both := filter_join left right on first fun _ => true
  simpa only [Bool.and_true, List.filter_true] using both

theorem length_join (left : List Left) (right : List Right) (on : Left → Right → Bool) :
    (join left right on).length = (left.map fun row => (right.filter (on row)).length).sum := by
  simp [join, List.length_flatMap]

/-- The two sides of a join count the same pairs. -/
theorem length_join_comm (left : List Left) (right : List Right) (on : Left → Right → Bool) :
    (join left right on).length = (join right left fun other row => on row other).length := by
  rw [length_join, length_join]
  induction left with
  | nil => simp
  | cons row rest ih =>
      rw [List.map_cons, List.sum_cons, ih]
      have grow (other : Right) : ((row :: rest).filter fun row => on row other).length =
          (if on row other then 1 else 0) + (rest.filter fun row => on row other).length := by
        rw [List.filter_cons]
        split
        · rw [List.length_cons, Nat.add_comm]
        · rw [Nat.zero_add]
      simp only [grow, List.sum_map_add]
      congr 1
      rw [← List.countP_eq_length_filter]
      clear ih grow
      induction right with
      | nil => rfl
      | cons other others ih =>
          rw [List.countP_cons, ih, List.map_cons, List.sum_cons, Nat.add_comm]

/-- A count is a sum of zeros and ones. -/
theorem length_filter_eq_sum {Row : Type*} (test : Row → Bool) (rows : List Row) :
    (rows.filter test).length = (rows.map fun row => if test row then 1 else 0).sum := by
  induction rows with
  | nil => rfl
  | cons row rest ih =>
      rw [List.map_cons, List.sum_cons, ← ih, List.filter_cons]
      split
      · rw [List.length_cons, Nat.add_comm]
      · rw [Nat.zero_add]

theorem sum_map_one {Row : Type*} (rows : List Row) : (rows.map fun _ => 1).sum = rows.length := by
  simp

/-- Two sums with ordered terms are equal exactly when their terms are equal. -/
theorem sum_map_eq_iff_of_le {Row : Type*} (rows : List Row) (small large : Row → Nat)
    (ordered : ∀ row ∈ rows, small row ≤ large row) :
    (rows.map large).sum = (rows.map small).sum ↔ ∀ row ∈ rows, large row = small row := by
  induction rows with
  | nil => simp
  | cons row rest ih =>
      rw [List.forall_mem_cons] at ordered
      have rests : (rest.map small).sum ≤ (rest.map large).sum := List.sum_le_sum ordered.2
      rw [List.forall_mem_cons, ← ih ordered.2]
      simp only [List.map_cons, List.sum_cons]
      have first := ordered.1
      omega

/-- A join counts its matched left rows exactly when no left row has two matches. -/
theorem length_join_eq_iff (left : List Left) (right : List Right) (on : Left → Right → Bool) :
    (join left right on).length = (left.filter fun row => right.any (on row)).length ↔
      ∀ row ∈ left, (right.filter (on row)).length ≤ 1 := by
  have once (row : Left) : (if right.any (on row) then 1 else 0) = min 1 (right.filter (on row)).length := by
    by_cases some : right.any (on row)
    · obtain ⟨other, member, holds⟩ := List.any_eq_true.mp some
      have positive := List.length_pos_of_mem (List.mem_filter.mpr ⟨member, holds⟩)
      rw [if_pos some]
      omega
    · have none : right.filter (on row) = [] := by
        rw [List.filter_eq_nil_iff]
        intro other member holds
        exact some (List.any_eq_true.mpr ⟨other, member, holds⟩)
      rw [if_neg some, none]
      rfl
  rw [length_join, length_filter_eq_sum]
  simp only [once]
  rw [sum_map_eq_iff_of_le left _ _ fun row _ => Nat.min_le_right _ _]
  refine forall_congr' fun row => imp_congr_right fun _ => ?_
  omega

/-- The same count over the chosen rows of a filtered left side. -/
theorem length_join_filtered_eq_iff (left : List Left) (right : List Right)
    (on : Left → Right → Bool) (keep chosen : Left → Bool) :
    (join ((left.filter keep).filter chosen) right on).length =
        ((left.filter fun row => keep row && right.any (on row)).filter chosen).length ↔
      ∀ row ∈ left, keep row = true → chosen row = true → (right.filter (on row)).length ≤ 1 := by
  have counted : (left.filter fun row => keep row && right.any (on row)).filter chosen =
      ((left.filter keep).filter chosen).filter fun row => right.any (on row) := by
    simp only [List.filter_filter]
    refine List.filter_congr fun row _ => ?_
    cases keep row <;> cases chosen row <;> simp
  rw [counted, length_join_eq_iff]
  simp only [List.mem_filter, and_imp]

end Join

section GroupBy
variable {Row Key Value : Type*} [DecidableEq Key]

/-- GROUP BY makes one row for each key that occurs. -/
def groupBy (key : Row → Key) (aggregate : Key → List Row → Value) (rows : List Row) : List Value :=
  (rows.map key).dedup.map fun group => aggregate group (rows.filter fun row => key row = group)

theorem mem_groupBy (key : Row → Key) (aggregate : Key → List Row → Value) (rows : List Row)
    (value : Value) :
    value ∈ groupBy key aggregate rows ↔
      ∃ row ∈ rows, value = aggregate (key row) (rows.filter fun other => key other = key row) := by
  simp only [groupBy, List.mem_map, List.mem_dedup]
  constructor
  · rintro ⟨group, ⟨row, member, rfl⟩, rfl⟩
    exact ⟨row, member, rfl⟩
  · rintro ⟨row, member, rfl⟩
    exact ⟨key row, ⟨row, member, rfl⟩, rfl⟩

/-- There is a group exactly when there is a row. -/
theorem groupBy_eq_nil_iff (key : Row → Key) (aggregate : Key → List Row → Value)
    (rows : List Row) : groupBy key aggregate rows = [] ↔ rows = [] := by
  rw [groupBy, List.map_eq_nil_iff, List.dedup_eq_nil, List.map_eq_nil_iff]

/-- A sum over distinct groups that cover the rows is the sum over the rows. -/
theorem sum_groups {Total : Type*} [AddCommMonoid Total] (key : Row → Key) (weight : Row → Total)
    (groups : List Key) (distinct : groups.Nodup) (rows : List Row)
    (covered : ∀ row ∈ rows, key row ∈ groups) :
    (groups.map fun group => ((rows.filter fun row => key row = group).map weight).sum).sum =
      (rows.map weight).sum := by
  induction rows with
  | nil => simp
  | cons row rest ih =>
      rw [List.forall_mem_cons] at covered
      have step (group : Key) : (((row :: rest).filter fun other => key other = group).map weight).sum =
          (if key row = group then weight row else 0) +
            ((rest.filter fun other => key other = group).map weight).sum := by
        by_cases same : key row = group
        · simp [same]
        · simp [same]
      simp only [step, List.sum_map_add, ih covered.2, List.map_cons, List.sum_cons]
      congr 1
      have single : ∀ others : List Key, others.Nodup → key row ∈ others →
          (others.map fun group => if key row = group then weight row else 0).sum = weight row := by
        intro others nodup member
        induction others with
        | nil => simp at member
        | cons group others inner =>
            rw [List.nodup_cons] at nodup
            rw [List.map_cons, List.sum_cons]
            by_cases same : key row = group
            · subst same
              have zeros : (others.map fun group => if key row = group then weight row else 0) =
                  others.map fun _ => 0 := by
                refine List.map_congr_left fun group inside => if_neg ?_
                rintro rfl
                exact nodup.1 inside
              rw [if_pos rfl, zeros]
              simp
            · rw [if_neg same, zero_add]
              exact inner nodup.2 ((List.mem_cons.mp member).resolve_left same)
      exact single groups distinct covered.1

theorem filter_dedup (keys : List Key) (keep : Key → Bool) :
    keys.dedup.filter keep = (keys.filter keep).dedup := by
  induction keys with
  | nil => rfl
  | cons key rest ih =>
      by_cases known : key ∈ rest
      · rw [List.dedup_cons_of_mem known, ih, List.filter_cons]
        split
        · next kept => rw [List.dedup_cons_of_mem (List.mem_filter.mpr ⟨known, kept⟩)]
        · rfl
      · rw [List.dedup_cons_of_notMem known, List.filter_cons, List.filter_cons, ih]
        split
        · rw [List.dedup_cons_of_notMem fun inside => known (List.mem_of_mem_filter inside)]
        · rfl

/-- A test of the groups that the rows themselves decide can be made before the grouping. -/
theorem filter_groupBy (key : Row → Key) (aggregate : Key → List Row → Value) (test : Value → Bool)
    (coarse : Row → Bool) (rows : List Row)
    (tested : ∀ row ∈ rows, test (aggregate (key row) (rows.filter fun other => key other = key row)) =
      coarse row) :
    (groupBy key aggregate rows).filter test = groupBy key aggregate (rows.filter coarse) := by
  let passing (group : Key) : Bool :=
    test (aggregate group (rows.filter fun row => key row = group))
  have agrees : ∀ row ∈ rows, coarse row = passing (key row) := fun row member =>
    (tested row member).symm
  have kept : rows.filter coarse = rows.filter fun row => passing (key row) :=
    List.filter_congr agrees
  rw [groupBy, groupBy, kept, List.filter_map]
  change ((rows.map key).dedup.filter passing).map _ = _
  rw [filter_dedup, List.filter_map]
  refine List.map_congr_left fun group inside => congrArg (aggregate group) ?_
  rw [List.mem_dedup, List.mem_map] at inside
  obtain ⟨first, member, rfl⟩ := inside
  rw [List.filter_filter]
  refine List.filter_congr fun row _ => ?_
  by_cases same : key row = key first
  · have holds : passing (key first) = true := (List.mem_filter.mp member).2
    rw [same, holds, Bool.and_true]
  · simp [same]

/-- A sum over all groups is the sum over all rows. -/
theorem sum_groupBy_all {Total : Type*} [AddCommMonoid Total] (key : Row → Key)
    (aggregate : Key → List Row → Value) (measure : Value → Total) (weight : Row → Total)
    (measured : ∀ group rows, measure (aggregate group rows) = (rows.map weight).sum)
    (rows : List Row) :
    ((groupBy key aggregate rows).map measure).sum = (rows.map weight).sum := by
  rw [groupBy, List.map_map]
  simp only [Function.comp_def, measured]
  refine sum_groups key weight _ (List.nodup_dedup _) _ fun row member => ?_
  exact List.mem_dedup.mpr (List.mem_map_of_mem member)

/-- The sizes of all groups add up to the number of rows. -/
theorem sum_groupBy_sizes (key : Row → Key) (aggregate : Key → List Row → Value)
    (measure : Value → Nat) (measured : ∀ group rows, measure (aggregate group rows) = rows.length)
    (rows : List Row) : ((groupBy key aggregate rows).map measure).sum = rows.length := by
  rw [sum_groupBy_all key aggregate measure fun _ => 1, sum_map_one]
  intro group inside
  rw [measured, sum_map_one]

/-- A sum over the groups that pass a test is the sum over the rows that pass it. -/
theorem sum_groupBy {Total : Type*} [AddCommMonoid Total] (key : Row → Key)
    (aggregate : Key → List Row → Value) (measure : Value → Total) (weight : Row → Total)
    (test : Value → Bool) (coarse : Row → Bool)
    (measured : ∀ group rows, measure (aggregate group rows) = (rows.map weight).sum)
    (rows : List Row)
    (tested : ∀ row ∈ rows, test (aggregate (key row) (rows.filter fun other => key other = key row)) =
      coarse row) :
    (((groupBy key aggregate rows).filter test).map measure).sum =
      ((rows.filter coarse).map weight).sum := by
  rw [filter_groupBy key aggregate test coarse rows tested,
    sum_groupBy_all key aggregate measure weight measured]

/-- The row of a group has the aggregate of its rows, and a group without rows has no row. -/
theorem elim_find_groupBy {Total : Type*} (key : Row → Key) (aggregate : Key → List Row → Value)
    (rows : List Row) (values : List Value)
    (listed : ∀ value, value ∈ values ↔ value ∈ groupBy key aggregate rows) (groupOf : Value → Key)
    (named : ∀ group rows, groupOf (aggregate group rows) = group) (measure : Value → Total)
    (absent : Total) (group : Key) :
    (values.find? fun value => groupOf value = group).elim absent measure =
      if rows.filter (fun row => key row = group) = [] then absent
      else measure (aggregate group (rows.filter fun row => key row = group)) := by
  cases found : values.find? fun value => groupOf value = group with
  | some value =>
      obtain ⟨row, member, rfl⟩ :=
        (mem_groupBy _ _ _ _).mp ((listed _).mp (List.mem_of_find?_eq_some found))
      have same := List.find?_some found
      rw [named, decide_eq_true_eq] at same
      subst same
      rw [if_neg (List.ne_nil_of_mem (List.mem_filter.mpr ⟨member, decide_eq_true rfl⟩))]
      rfl
  | none =>
      have nothing : rows.filter (fun row => key row = group) = [] := by
        apply List.filter_eq_nil_iff.mpr
        intro row member same
        have inside := (listed _).mpr ((mem_groupBy _ aggregate _ _).mpr ⟨row, member, rfl⟩)
        have different := List.find?_eq_none.mp found _ inside
        rw [named] at different
        exact different same
      rw [if_pos nothing]
      rfl

end GroupBy

section Aggregates
variable {Row Value : Type*}

/-- COUNT(CASE WHEN condition THEN 1 END) counts the rows with a true condition. -/
def countWhen (condition : Row → Truth) (rows : List Row) : Nat :=
  (rows.filter fun row => condition row = .true).length

def countDistinct [DecidableEq Value] (value : Row → Value) (rows : List Row) : Nat :=
  (rows.map value).dedup.length

def sumOf (value : Row → ℚ) (rows : List Row) : ℚ := (rows.map value).sum

/-- A group has at least one row, so its average is a number. -/
def average (value : Row → ℚ) (rows : List Row) : ℚ := sumOf value rows / rows.length

/-- ROUND moves a half away from zero. -/
def roundTo (places : Nat) (value : ℚ) : ℚ :=
  let scaled := value * 10 ^ places
  (if 0 ≤ value then (⌊scaled + 1 / 2⌋ : ℚ) else -⌊-scaled + 1 / 2⌋) / 10 ^ places

/-- A division by zero is NULL. -/
def divide (value divisor : ℚ) : Option ℚ := if divisor = 0 then none else some (value / divisor)

/-- ORDER BY measure DESC. -/
def orderByDesc [LE Value] [DecidableLE Value] (measure : Row → Value) (rows : List Row) :
    List Row :=
  rows.mergeSort fun first second => measure second ≤ measure first

@[simp] theorem mem_orderByDesc [LE Value] [DecidableLE Value] (measure : Row → Value)
    (rows : List Row) (row : Row) : row ∈ orderByDesc measure rows ↔ row ∈ rows :=
  List.mem_mergeSort

end Aggregates

end OdsPipeline.Library
