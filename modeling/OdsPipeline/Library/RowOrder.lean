import Mathlib.Data.List.Flatten
import OdsPipeline.Library.Relation

/-
This file shows that joins, groups and aggregates do not depend on the order of their rows,
and that joins and sums grow with their rows.
-/

namespace OdsPipeline.Library

section Join
variable {Left Right : Type*}

theorem join_perm {left left' : List Left} {right right' : List Right}
    (on : Left → Right → Bool) (lefts : left.Perm left') (rights : right.Perm right') :
    (join left right on).Perm (join left' right' on) :=
  lefts.flatMap fun row _ => (rights.filter (on row)).map fun other => (row, other)

/-- A join of some of the rows is a part of the join of all rows. -/
theorem join_sublist {left left' : List Left} {right right' : List Right}
    (on : Left → Right → Bool) (lefts : left.Sublist left') (rights : right.Sublist right') :
    (join left right on).Sublist (join left' right' on) := by
  have fewer : (join left right on).Sublist (join left' right on) := lefts.flatMap _
  apply fewer.trans
  apply List.Sublist.flatMap_right
  intro row _
  exact (List.Sublist.filter (on row) rights).map fun other => (row, other)

/-- A join does not see the right rows that match no left row. -/
theorem join_filter_right (left : List Left) (right : List Right) (on : Left → Right → Bool)
    (keep : Right → Bool)
    (matched : ∀ row ∈ left, ∀ other ∈ right, on row other = true → keep other = true) :
    join left (right.filter keep) on = join left right on := by
  unfold join
  apply List.flatMap_congr
  intro row inLeft
  rw [List.filter_filter]
  congr 1
  apply List.filter_congr
  intro other inRight
  have kept := matched row inLeft other inRight
  cases holds : on row other with
  | false => rfl
  | true => rw [kept holds, Bool.and_true]

/-- A join does not see the left rows that match no right row. -/
theorem join_filter_left (left : List Left) (right : List Right) (on : Left → Right → Bool)
    (keep : Left → Bool)
    (matched : ∀ row ∈ left, ∀ other ∈ right, on row other = true → keep row = true) :
    join (left.filter keep) right on = join left right on := by
  rw [← filter_join_left, List.filter_eq_self]
  intro pair member
  obtain ⟨inLeft, inRight, holds⟩ := (mem_join left right on pair).mp member
  exact matched pair.1 inLeft pair.2 inRight holds

end Join

section Aggregates
variable {Row Value : Type*} {first second : List Row}

theorem countWhen_perm (perm : first.Perm second) (condition : Row → Truth) :
    countWhen condition first = countWhen condition second :=
  (perm.filter _).length_eq

theorem countDistinct_perm [DecidableEq Value] (perm : first.Perm second) (value : Row → Value) :
    countDistinct value first = countDistinct value second :=
  (perm.map value).dedup.length_eq

theorem sumOf_perm (perm : first.Perm second) (value : Row → ℚ) :
    sumOf value first = sumOf value second :=
  (perm.map value).sum_eq

/-- A sum of values that are not negative grows with its rows. -/
theorem sumOf_le_of_sublist (part : first.Sublist second) (value : Row → ℚ)
    (nonneg : ∀ row ∈ second, 0 ≤ value row) : sumOf value first ≤ sumOf value second := by
  apply List.Sublist.sum_le_sum (part.map value)
  intro amount member
  obtain ⟨row, inside, rfl⟩ := List.mem_map.mp member
  exact nonneg row inside

theorem average_perm (perm : first.Perm second) (value : Row → ℚ) :
    average value first = average value second := by
  rw [average, average, sumOf_perm perm, perm.length_eq]

variable [LinearOrder Value] {values others : List Value}

theorem min?_perm (perm : values.Perm others) : values.min? = others.min? := by
  ext value
  simp only [List.min?_eq_some_iff, perm.mem_iff]

theorem max?_perm (perm : values.Perm others) : values.max? = others.max? := by
  ext value
  simp only [List.max?_eq_some_iff, perm.mem_iff]

end Aggregates

section GroupBy
variable {Row Key Value : Type*} [DecidableEq Key]

/-- An aggregate of a group reads its rows in no particular order. -/
def OrderFree (aggregate : Key → List Row → Value) : Prop :=
  ∀ group first second, first.Perm second → aggregate group first = aggregate group second

/-- The same rows in another order form the same groups. -/
theorem groupBy_perm (key : Row → Key) {aggregate : Key → List Row → Value}
    (free : OrderFree aggregate) {first second : List Row} (perm : first.Perm second) :
    (groupBy key aggregate first).Perm (groupBy key aggregate second) := by
  have groups : (fun group => aggregate group (first.filter fun row => key row = group)) =
      fun group => aggregate group (second.filter fun row => key row = group) := by
    funext group
    exact free group _ _ (perm.filter _)
  unfold groupBy
  rw [groups]
  exact (perm.map key).dedup.map _

end GroupBy

end OdsPipeline.Library
