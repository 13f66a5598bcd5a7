import Mathlib.Data.List.DropRight

/-
This file keeps the last values of a growing list in a window of bounded size.
-/

namespace OdsPipeline.Library

variable {Value : Type*}

/-- A window drops its oldest value when it has too many. -/
def pushBounded (size : Nat) (window : List Value) (value : Value) : List Value :=
  if size < (window ++ [value]).length then (window ++ [value]).tail else window ++ [value]

theorem length_rtake (size : Nat) (values : List Value) :
    (values.rtake size).length = min size values.length := by
  rw [List.rtake, List.length_drop]
  omega

/-- A window with the last values has the last values after a push. -/
theorem pushBounded_rtake (size : Nat) (positive : 0 < size) (values : List Value) (value : Value) :
    pushBounded size (values.rtake size) value = (values ++ [value]).rtake size := by
  have count := length_rtake size values
  rw [pushBounded, List.length_append, List.length_singleton, count]
  split
  · next full =>
      rw [List.tail_append_of_ne_nil, List.rtake, List.rtake, List.tail_drop, List.length_append,
        List.length_singleton, List.drop_append_of_le_length (by omega)]
      · congr 2
        omega
      · rw [← List.length_pos_iff, count]
        omega
  · next small =>
      have whole (list : List Value) (few : list.length ≤ size) : list.rtake size = list := by
        rw [List.rtake, Nat.sub_eq_zero_of_le few, List.drop_zero]
      rw [whole values (by omega), whole]
      rw [List.length_append, List.length_singleton]
      omega

/-- Pushes one after another leave the last values. -/
theorem foldl_pushBounded (size : Nat) (positive : 0 < size) (values : List Value) :
    values.foldl (pushBounded size) [] = values.rtake size := by
  induction values using List.reverseRecOn with
  | nil => exact (List.rtake_nil size).symm
  | append_singleton values value ih =>
      rw [List.foldl_append, ih]
      exact pushBounded_rtake size positive values value

end OdsPipeline.Library
