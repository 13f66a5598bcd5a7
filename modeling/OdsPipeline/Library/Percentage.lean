import Mathlib.Data.Option.NAry
import Mathlib.Tactic.Linarith
import Mathlib.Tactic.Positivity
import Mathlib.Tactic.Ring
import Mathlib.Order.WithBot
import OdsPipeline.Library.Rounding

/-
This file gives sums, counts and percentages of nullable columns.
-/

namespace OdsPipeline.Library

section Nullable
variable {Row : Type*}

/-- SUM skips each NULL, and it is NULL when no value is left. -/
def sumColumn (value : Row → Option ℚ) (rows : List Row) : Option ℚ :=
  match rows.filterMap value with
  | [] => none
  | first :: rest => some (first :: rest).sum

def plus (left right : Option ℚ) : Option ℚ := Option.map₂ (· + ·) left right

def times (left right : Option ℚ) : Option ℚ := Option.map₂ (· * ·) left right

/-- A quotient is NULL when an operand is NULL or the divisor is zero. -/
def quotient (value divisor : Option ℚ) : Option ℚ := do divide (← value) (← divisor)

/-- part * 100.0 / whole. -/
def percentOf (part whole : Option ℚ) : Option ℚ := quotient (times part (some 100)) whole

def nullIf (value : Option ℚ) (other : ℚ) : Option ℚ := if value = some other then none else value

def coalesce (value other : Option ℚ) : Option ℚ := value.or other

/-- ORDER BY takes NULL as the smallest value. -/
def sortKey (value : Option ℚ) : WithBot ℚ := value

theorem sumColumn_some (value : Row → ℚ) (rows : List Row) :
    sumColumn (fun row => some (value row)) rows =
      if rows = [] then none else some (sumOf value rows) := by
  cases rows with
  | nil => rfl
  | cons row rest =>
      have present : (row :: rest).filterMap (fun row => some (value row)) =
          value row :: rest.map value := by
        rw [List.filterMap_eq_map']
        rfl
      rw [sumColumn, present, if_neg (List.cons_ne_nil row rest)]
      rfl

theorem sumColumn_map {Other : Type*} (value : Row → Option ℚ) (change : Other → Row)
    (others : List Other) :
    sumColumn value (others.map change) = sumColumn (fun other => value (change other)) others := by
  rw [sumColumn, List.filterMap_map]
  rfl

/-- The order of the rows does not matter for a sum. -/
theorem sumColumn_perm (value : Row → Option ℚ) {first second : List Row}
    (perm : first.Perm second) : sumColumn value first = sumColumn value second := by
  have values := perm.filterMap value
  have total (present : List ℚ) : (match present with
      | [] => none
      | number :: rest => some (number :: rest).sum) =
        if present = [] then none else some present.sum := by
    cases present <;> rfl
  have empty : first.filterMap value = [] ↔ second.filterMap value = [] := by
    rw [← List.length_eq_zero_iff, values.length_eq, List.length_eq_zero_iff]
  rw [sumColumn, sumColumn, total, total, values.sum_eq]
  exact if_congr empty rfl rfl

/-- A divisor that goes through NULLIF is not zero. -/
theorem nullIf_ne (value : Option ℚ) (other : ℚ) : nullIf value other ≠ some other := by
  unfold nullIf
  split
  · exact nofun
  · next different => exact different

end Nullable

section Percent

/-- A part of a whole is a percentage. -/
theorem percent_mem {part whole : ℚ} (nonneg : 0 ≤ part) (most : part ≤ whole) :
    0 ≤ part * 100 / whole ∧ part * 100 / whole ≤ 100 := by
  have positive : 0 ≤ whole := nonneg.trans most
  constructor
  · positivity
  · apply div_le_of_le_mul₀ positive (by norm_num)
    linarith

/-- The rate of a positive part is a number, because the guarded divisor is positive. -/
theorem percentOf_plus {part rest : ℚ} (positive : 0 < part) (nonneg : 0 ≤ rest) :
    percentOf (some part) (nullIf (plus (some part) (some rest)) 0) =
      some (part * 100 / (part + rest)) := by
  have total : part + rest ≠ 0 := by positivity
  have guarded : nullIf (plus (some part) (some rest)) 0 = some (part + rest) :=
    if_neg fun same => total (Option.some.inj same)
  rw [guarded]
  exact if_neg total

/-- A part is a smaller percentage of a larger whole. -/
theorem percent_le_percent {part rest more : ℚ} (positive : 0 < part) (nonneg : 0 ≤ rest)
    (order : rest ≤ more) : part * 100 / (part + more) ≤ part * 100 / (part + rest) := by
  apply div_le_div_of_nonneg_left
  · positivity
  · positivity
  · linarith

/-- A rate with both guards is a percentage for every pair of counts. -/
theorem coalesce_percent_mem (places : Nat) (part whole : Option ℚ)
    (bounded : ∀ few many, part = some few → whole = some many → 0 ≤ few ∧ few ≤ many) :
    ∃ rate, coalesce ((percentOf part (nullIf whole 0)).map (roundTo places)) (some 0) = some rate ∧
      0 ≤ rate ∧ rate ≤ 100 := by
  have zero : (0 : ℚ) ≤ 0 ∧ (0 : ℚ) ≤ 100 := by norm_num
  cases part with
  | none => exact ⟨0, rfl, zero⟩
  | some few =>
      cases whole with
      | none => exact ⟨0, rfl, zero⟩
      | some many =>
          by_cases empty : many = 0
          · subst empty
            exact ⟨0, rfl, zero⟩
          · obtain ⟨nonneg, most⟩ := bounded few many rfl rfl
            have percent := percent_mem nonneg most
            have guarded : nullIf (some many) 0 = some many :=
              if_neg fun same => empty (Option.some.inj same)
            have divided : percentOf (some few) (some many) = some (few * 100 / many) :=
              if_neg empty
            rw [guarded, divided]
            exact ⟨_, rfl, roundTo_mem_percent places percent.1 percent.2⟩

end Percent

section Counts
variable {Row Key Value : Type*}

theorem countWhen_le_of_imp (first second : Row → Truth) (rows : List Row)
    (stronger : ∀ row ∈ rows, first row = .true → second row = .true) :
    countWhen first rows ≤ countWhen second rows := by
  rw [countWhen, countWhen, ← List.countP_eq_length_filter, ← List.countP_eq_length_filter]
  apply List.countP_mono_left
  intro row member holds
  exact decide_eq_true (stronger row member (of_decide_eq_true holds))

theorem countWhen_le_length (condition : Row → Truth) (rows : List Row) :
    countWhen condition rows ≤ rows.length :=
  List.length_filter_le _ _

variable [DecidableEq Key]

/-- The counts of groups add up to the count of all rows. -/
theorem sum_groupBy_counts (key : Row → Key) (aggregate : Key → List Row → Value)
    (measure : Value → Nat) (condition : Row → Truth)
    (measured : ∀ group rows, measure (aggregate group rows) = countWhen condition rows)
    (rows : List Row) :
    ((groupBy key aggregate rows).map measure).sum = countWhen condition rows := by
  rw [sum_groupBy_all key aggregate measure fun row => if condition row = .true then 1 else 0,
    countWhen, length_filter_eq_sum]
  · simp only [decide_eq_true_eq]
  · intro group inside
    rw [measured, countWhen, length_filter_eq_sum]
    simp only [decide_eq_true_eq]

/-- The counts of distinct keys add up to the rows that have one of these keys. -/
theorem sum_length_filter_keys (key : Row → Key) (keys : List Key) (distinct : keys.Nodup)
    (rows : List Row) :
    (keys.map fun name => (rows.filter fun row => key row = name).length).sum =
      (rows.filter fun row => key row ∈ keys).length := by
  have groups := sum_groups key (fun _ => 1) keys distinct (rows.filter fun row => key row ∈ keys)
    fun row member => of_decide_eq_true (List.mem_filter.mp member).2
  simp only [sum_map_one] at groups
  rw [← groups]
  congr 1
  apply List.map_congr_left
  intro name inside
  rw [List.filter_filter]
  congr 1
  apply List.filter_congr
  intro row _
  by_cases same : key row = name
  · simp [same, inside]
  · simp [same]

end Counts

end OdsPipeline.Library
