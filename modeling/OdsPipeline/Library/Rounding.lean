import Mathlib.Tactic.FieldSimp
import Mathlib.Tactic.Linarith
import Mathlib.Tactic.Positivity
import Mathlib.Tactic.Ring
import OdsPipeline.Library.Relation

/-
This file compares a rounded value with the exact one.
-/

namespace OdsPipeline.Library

/-- A value that is not negative is rounded half up. -/
theorem roundTo_of_nonneg (places : Nat) {value : ℚ} (nonneg : 0 ≤ value) :
    roundTo places value = (⌊value * 10 ^ places + 1 / 2⌋ : ℚ) / 10 ^ places := by
  rw [roundTo, if_pos nonneg]

/-- A negative value is rounded like its opposite. -/
theorem roundTo_of_neg (places : Nat) {value : ℚ} (negative : value < 0) :
    roundTo places value = -(⌊-(value * 10 ^ places) + 1 / 2⌋ : ℚ) / 10 ^ places := by
  rw [roundTo, if_neg negative.not_ge]

/-- Rounding moves a value by at most half a unit of its last place. -/
theorem abs_roundTo_sub_le (places : Nat) (value : ℚ) :
    |roundTo places value - value| ≤ 1 / 2 / 10 ^ places := by
  have scale : (0 : ℚ) < 10 ^ places := by positivity
  have near (scaled : ℚ) : |(⌊scaled + 1 / 2⌋ : ℚ) - scaled| ≤ 1 / 2 := by
    have below := Int.floor_le (scaled + 1 / 2)
    have above := Int.lt_floor_add_one (scaled + 1 / 2)
    rw [abs_le]
    constructor <;> linarith
  have whole : |(if 0 ≤ value then (⌊value * 10 ^ places + 1 / 2⌋ : ℚ)
      else -⌊-(value * 10 ^ places) + 1 / 2⌋) - value * 10 ^ places| ≤ 1 / 2 := by
    split
    · exact near (value * 10 ^ places)
    · have mirrored := near (-(value * 10 ^ places))
      rw [← abs_neg]
      convert mirrored using 2
      ring
  have back : roundTo places value - value = ((if 0 ≤ value then
      (⌊value * 10 ^ places + 1 / 2⌋ : ℚ) else -⌊-(value * 10 ^ places) + 1 / 2⌋) -
        value * 10 ^ places) / 10 ^ places := by
    rw [sub_div, mul_div_cancel_right₀ _ scale.ne']
    rfl
  rw [back, abs_div, abs_of_pos scale]
  exact div_le_div_of_nonneg_right whole scale.le

section Whole
variable (places : Nat)

theorem exists_roundTo_eq (value : ℚ) :
    ∃ units : ℤ, roundTo places value = units / 10 ^ places := by
  by_cases nonneg : 0 ≤ value
  · exact ⟨_, roundTo_of_nonneg places nonneg⟩
  · rw [roundTo_of_neg places (not_le.mp nonneg)]
    exact ⟨-⌊-(value * 10 ^ places) + 1 / 2⌋, by push_cast; rfl⟩

/-- A whole number of units stays as it is. -/
theorem roundTo_units (units : ℤ) :
    roundTo places (units / 10 ^ places) = units / 10 ^ places := by
  have scale : (10 : ℚ) ^ places ≠ 0 := by positivity
  have floor (whole : ℤ) : ⌊(whole : ℚ) + 1 / 2⌋ = whole := by
    rw [Int.floor_eq_iff]
    constructor <;> linarith
  by_cases nonneg : (0 : ℚ) ≤ units / 10 ^ places
  · rw [roundTo_of_nonneg places nonneg, div_mul_cancel₀ _ scale, floor]
  · have negated := floor (-units)
    push_cast at negated
    rw [roundTo_of_neg places (not_le.mp nonneg), div_mul_cancel₀ _ scale, negated]
    push_cast
    rw [neg_neg]

theorem roundTo_natCast (amount : Nat) : roundTo places amount = amount := by
  have scale : (10 : ℚ) ^ places ≠ 0 := by positivity
  have units := roundTo_units places (amount * 10 ^ places)
  push_cast at units
  rwa [mul_div_cancel_right₀ _ scale] at units

/-- A second rounding changes nothing. -/
theorem roundTo_roundTo (value : ℚ) : roundTo places (roundTo places value) = roundTo places value := by
  obtain ⟨units, same⟩ := exists_roundTo_eq places value
  rw [same, roundTo_units]

end Whole

section Order
variable (places : Nat)

theorem roundTo_nonneg {value : ℚ} (nonneg : 0 ≤ value) : 0 ≤ roundTo places value := by
  have scaled : (0 : ℚ) ≤ value * 10 ^ places + 1 / 2 := by positivity
  have floor : (0 : ℚ) ≤ (⌊value * 10 ^ places + 1 / 2⌋ : ℚ) := by
    exact_mod_cast Int.floor_nonneg.mpr scaled
  rw [roundTo_of_nonneg places nonneg]
  positivity

theorem roundTo_nonpos {value : ℚ} (negative : value < 0) : roundTo places value ≤ 0 := by
  have scaled : (0 : ℚ) ≤ -(value * 10 ^ places) + 1 / 2 := by
    have below := mul_neg_of_neg_of_pos negative (show (0 : ℚ) < 10 ^ places by positivity)
    linarith
  have floor : (0 : ℚ) ≤ (⌊-(value * 10 ^ places) + 1 / 2⌋ : ℚ) := by
    exact_mod_cast Int.floor_nonneg.mpr scaled
  rw [roundTo_of_neg places negative]
  apply div_nonpos_of_nonpos_of_nonneg
  · linarith
  · positivity

theorem roundTo_le_roundTo {small large : ℚ} (nonneg : 0 ≤ small) (order : small ≤ large) :
    roundTo places small ≤ roundTo places large := by
  have scale : (0 : ℚ) < 10 ^ places := by positivity
  have floors : ⌊small * 10 ^ places + 1 / 2⌋ ≤ ⌊large * 10 ^ places + 1 / 2⌋ := by
    apply Int.floor_le_floor
    have scaled := mul_le_mul_of_nonneg_right order scale.le
    linarith
  rw [roundTo_of_nonneg places nonneg, roundTo_of_nonneg places (nonneg.trans order)]
  apply div_le_div_of_nonneg_right _ scale.le
  exact_mod_cast floors

/-- Rounding does not move a value past a whole amount. -/
theorem roundTo_le_natCast (amount : Nat) {value : ℚ} (below : value ≤ amount) :
    roundTo places value ≤ amount := by
  by_cases nonneg : 0 ≤ value
  · have order := roundTo_le_roundTo places nonneg below
    rwa [roundTo_natCast] at order
  · have order := roundTo_nonpos places (not_le.mp nonneg)
    exact order.trans (Nat.cast_nonneg amount)

/-- A rounded value reaches a whole amount from half a unit below it. -/
theorem natCast_le_roundTo_iff (amount : Nat) (positive : 0 < amount) (value : ℚ) :
    (amount : ℚ) ≤ roundTo places value ↔ amount - 1 / 2 / 10 ^ places ≤ value := by
  have scale : (0 : ℚ) < 10 ^ places := by positivity
  have least : (1 : ℚ) ≤ amount := Nat.one_le_cast.mpr positive
  by_cases nonneg : 0 ≤ value
  · have units : (amount : ℚ) * 10 ^ places = ((amount * 10 ^ places : ℤ) : ℚ) := by push_cast; rfl
    rw [roundTo_of_nonneg places nonneg, le_div_iff₀ scale, units, Int.cast_le, Int.le_floor,
      ← units, ← sub_le_iff_le_add, ← div_le_iff₀ scale, sub_div, mul_div_cancel_right₀ _ scale.ne']
  · have rounded := roundTo_nonpos places (not_le.mp nonneg)
    have half : (1 : ℚ) / 2 / 10 ^ places ≤ 1 / 2 := by
      apply div_le_self (by norm_num)
      exact one_le_pow₀ (by norm_num)
    rw [not_le] at nonneg
    constructor <;> intro order <;> linarith

/-- A value is rounded to a positive one from half a unit on. -/
theorem roundTo_pos_iff (value : ℚ) : 0 < roundTo places value ↔ 1 / 2 / 10 ^ places ≤ value := by
  have scale : (0 : ℚ) < 10 ^ places := by positivity
  by_cases nonneg : 0 ≤ value
  · have one : (1 : ℤ) ≤ ⌊value * 10 ^ places + 1 / 2⌋ ↔ (1 : ℚ) / 2 ≤ value * 10 ^ places := by
      rw [Int.le_floor]
      push_cast
      constructor <;> intro order <;> linarith
    rw [roundTo_of_nonneg places nonneg, div_pos_iff_of_pos_right scale, Int.cast_pos,
      div_le_iff₀ scale, ← one]
    exact Iff.rfl
  · have rounded := roundTo_nonpos places (not_le.mp nonneg)
    have half : (0 : ℚ) < 1 / 2 / 10 ^ places := by positivity
    rw [not_le] at nonneg
    constructor <;> intro order <;> linarith

/-- Rounding keeps a percentage between 0 and 100. -/
theorem roundTo_mem_percent {value : ℚ} (nonneg : 0 ≤ value) (most : value ≤ 100) :
    0 ≤ roundTo places value ∧ roundTo places value ≤ 100 :=
  ⟨roundTo_nonneg places nonneg, roundTo_le_natCast places 100 most⟩

end Order

end OdsPipeline.Library
