import Mathlib.Algebra.BigOperators.Ring.List
import Mathlib.Tactic.FieldSimp
import Mathlib.Tactic.Linarith
import Mathlib.Tactic.Positivity
import Mathlib.Tactic.Ring
import OdsPipeline.Library.Rounding

/-
This file compares an aggregate of groups with the same aggregate of all their rows.
-/

namespace OdsPipeline.Library

section Rounding
variable {Row : Type*}

/-- Sums of close terms are close. -/
theorem abs_sum_map_sub_le (rows : List Row) (near exact : Row → ℚ) (bound : ℚ)
    (close : ∀ row ∈ rows, |near row - exact row| ≤ bound) :
    |sumOf near rows - sumOf exact rows| ≤ bound * rows.length := by
  induction rows with
  | nil => simp [sumOf]
  | cons row rest ih =>
      rw [List.forall_mem_cons] at close
      have later := abs_le.mp (ih close.2)
      have first := abs_le.mp close.1
      simp only [sumOf, List.map_cons, List.sum_cons, List.length_cons, Nat.cast_succ] at later ⊢
      rw [abs_le]
      constructor <;> linarith

/-- Averages of close terms are close. -/
theorem abs_average_sub_le (rows : List Row) (nonempty : rows ≠ []) (near exact : Row → ℚ)
    (bound : ℚ) (close : ∀ row ∈ rows, |near row - exact row| ≤ bound) :
    |average near rows - average exact rows| ≤ bound := by
  have count : (0 : ℚ) < rows.length := by exact_mod_cast List.length_pos_iff.mpr nonempty
  rw [average, average, ← sub_div, abs_div, abs_of_pos count, div_le_iff₀ count]
  exact abs_sum_map_sub_le rows near exact bound close

theorem average_map {Other : Type*} (weight : Other → ℚ) (convert : Row → Other)
    (rows : List Row) :
    average weight (rows.map convert) = average (fun row => weight (convert row)) rows := by
  rw [average, average, sumOf, sumOf, List.map_map, List.length_map]
  rfl

variable {Key Value : Type*} [DecidableEq Key]

/-- A sum of rounded group sums is off by at most one rounding for each group. -/
theorem abs_sum_groupBy_sub_le (key : Row → Key) (aggregate : Key → List Row → Value)
    (measure : Value → ℚ) (weight : Row → ℚ) (bound : ℚ)
    (close : ∀ group rows, |measure (aggregate group rows) - sumOf weight rows| ≤ bound)
    (rows : List Row) :
    |sumOf measure (groupBy key aggregate rows) - sumOf weight rows| ≤
      bound * (groupBy key aggregate rows).length := by
  have exact := sum_groups key weight (rows.map key).dedup (List.nodup_dedup _) rows
    fun row member => List.mem_dedup.mpr (List.mem_map_of_mem member)
  have near := abs_sum_map_sub_le (rows.map key).dedup
    (fun group => measure (aggregate group (rows.filter fun row => key row = group)))
    (fun group => sumOf weight (rows.filter fun row => key row = group)) bound
    fun group _ => close group _
  have total : sumOf (fun group => sumOf weight (rows.filter fun row => key row = group))
      (rows.map key).dedup = sumOf weight rows := exact
  rw [total] at near
  rw [groupBy, List.length_map, sumOf, List.map_map]
  exact near

end Rounding

section Averages
variable {Row Key : Type*} [DecidableEq Key]

/-- The size and the average of each group. -/
def groupProfiles (key : Row → Key) (value : Row → ℚ) (rows : List Row) : List (Nat × ℚ) :=
  groupBy key (fun _ group => (group.length, average value group)) rows

/-- Each group weighs the same in this average, whatever its size. -/
def averageOfGroups (key : Row → Key) (value : Row → ℚ) (rows : List Row) : ℚ :=
  average Prod.snd (groupProfiles key value rows)

/-- The covariance of size and average over the groups, times the number of groups. -/
def sizeCovariance (key : Row → Key) (value : Row → ℚ) (rows : List Row) : ℚ :=
  let groups := groupProfiles key value rows
  sumOf (fun group => (group.1 - rows.length / groups.length) *
    (group.2 - averageOfGroups key value rows)) groups

theorem sumOf_product (groups : List (Nat × ℚ)) (size mean : ℚ) :
    sumOf (fun group => (group.1 - size) * (group.2 - mean)) groups =
      sumOf (fun group => group.1 * group.2) groups - mean * sumOf (fun group => (group.1 : ℚ)) groups -
        size * sumOf Prod.snd groups + size * mean * groups.length := by
  induction groups with
  | nil => simp [sumOf]
  | cons group rest ih =>
      simp only [sumOf, List.map_cons, List.sum_cons, List.length_cons, Nat.cast_succ] at ih ⊢
      rw [ih]
      ring

/-- The groups of some rows count these rows. -/
theorem sumOf_sizes (key : Row → Key) (value : Row → ℚ) (rows : List Row) :
    sumOf (fun group => (group.1 : ℚ)) (groupProfiles key value rows) = rows.length := by
  have counted := sum_groups key (fun _ => (1 : ℚ)) (rows.map key).dedup (List.nodup_dedup _) rows
    fun row member => List.mem_dedup.mpr (List.mem_map_of_mem member)
  simp only [List.map_const', List.sum_replicate, nsmul_eq_mul, mul_one] at counted
  rw [← counted, sumOf, groupProfiles, groupBy, List.map_map]
  rfl

/-- The groups of some rows add up to the sum of these rows. -/
theorem sumOf_groupSums (key : Row → Key) (value : Row → ℚ) (rows : List Row) :
    sumOf (fun group => group.1 * group.2) (groupProfiles key value rows) = sumOf value rows := by
  have added := sum_groups key value (rows.map key).dedup (List.nodup_dedup _) rows
    fun row member => List.mem_dedup.mpr (List.mem_map_of_mem member)
  rw [sumOf, groupProfiles, groupBy, List.map_map, sumOf, ← added]
  congr 1
  apply List.map_congr_left
  intro group inside
  rw [List.mem_dedup, List.mem_map] at inside
  obtain ⟨row, member, same⟩ := inside
  have size : ((rows.filter fun row => key row = group).length : ℚ) ≠ 0 := by
    rw [Nat.cast_ne_zero]
    exact List.length_pos_iff.mpr
      (List.ne_nil_of_mem (List.mem_filter.mpr ⟨member, decide_eq_true same⟩)) |>.ne'
  exact mul_div_cancel₀ _ size

/-- The average of the rows differs from the average of the groups by the covariance of size and
average. -/
theorem average_sub_averageOfGroups (key : Row → Key) (value : Row → ℚ) (rows : List Row)
    (nonempty : rows ≠ []) :
    average value rows - averageOfGroups key value rows =
      sizeCovariance key value rows / rows.length := by
  have count : (rows.length : ℚ) ≠ 0 := by
    exact_mod_cast (List.length_pos_iff.mpr nonempty).ne'
  have groups : ((groupProfiles key value rows).length : ℚ) ≠ 0 := by
    obtain ⟨row, member⟩ := List.exists_mem_of_ne_nil rows nonempty
    have inside := (mem_groupBy key (fun _ group => (group.length, average value group)) rows
      _).mpr ⟨row, member, rfl⟩
    exact_mod_cast (List.length_pos_of_mem inside).ne'
  have means : sumOf Prod.snd (groupProfiles key value rows) =
      averageOfGroups key value rows * (groupProfiles key value rows).length :=
    (div_mul_cancel₀ _ groups).symm
  rw [sizeCovariance, sumOf_product, sumOf_sizes, sumOf_groupSums, means, average]
  field_simp
  ring

/-- The two averages agree exactly when size and average are uncorrelated over the groups. -/
theorem averageOfGroups_eq_iff (key : Row → Key) (value : Row → ℚ) (rows : List Row)
    (nonempty : rows ≠ []) :
    averageOfGroups key value rows = average value rows ↔ sizeCovariance key value rows = 0 := by
  have count : (rows.length : ℚ) ≠ 0 := by
    exact_mod_cast (List.length_pos_iff.mpr nonempty).ne'
  have gap := average_sub_averageOfGroups key value rows nonempty
  rw [eq_comm, ← sub_eq_zero, gap, div_eq_zero_iff, or_iff_left count]

/-- A rounded average of rounded group averages is off by at most two roundings. -/
theorem abs_rolledAverage_sub_le {Value : Type*} (key : Row → Key) (value : Row → ℚ)
    (aggregate : Key → List Row → Value) (measure : Value → ℚ) (places : Nat)
    (measured : ∀ group rows, measure (aggregate group rows) = roundTo places (average value rows))
    (rows : List Row) (nonempty : rows ≠ []) :
    |roundTo places (average measure (groupBy key aggregate rows)) -
      averageOfGroups key value rows| ≤ 1 / 10 ^ places := by
  have groups : (rows.map key).dedup ≠ [] := by
    obtain ⟨row, member⟩ := List.exists_mem_of_ne_nil rows nonempty
    exact List.ne_nil_of_mem (List.mem_dedup.mpr (List.mem_map_of_mem member))
  have inner : |average measure (groupBy key aggregate rows) - averageOfGroups key value rows| ≤
      1 / 2 / 10 ^ places := by
    rw [groupBy, average_map, averageOfGroups, groupProfiles, groupBy, average_map]
    apply abs_average_sub_le _ groups
    intro group _
    rw [measured]
    exact abs_roundTo_sub_le places _
  have outer := abs_le.mp (abs_roundTo_sub_le places (average measure (groupBy key aggregate rows)))
  have near := abs_le.mp inner
  have halves : (1 : ℚ) / 10 ^ places = 1 / 2 / 10 ^ places + 1 / 2 / 10 ^ places := by ring
  rw [halves, abs_le]
  constructor <;> linarith

variable (key : Row → Key) (value : Row → ℚ) (rows : List Row) {rolled bound : ℚ}

/-- Balanced groups give the average of the rows. -/
theorem near_average_of_balanced (nonempty : rows ≠ [])
    (close : |rolled - averageOfGroups key value rows| ≤ bound)
    (balanced : sizeCovariance key value rows = 0) : |rolled - average value rows| ≤ bound := by
  rw [← (averageOfGroups_eq_iff key value rows nonempty).mpr balanced]
  exact close

/-- A right average leaves little covariance of size and average. -/
theorem abs_sizeCovariance_le (nonempty : rows ≠ [])
    (close : |rolled - averageOfGroups key value rows| ≤ bound)
    (right : |rolled - average value rows| ≤ bound) :
    |sizeCovariance key value rows| ≤ 2 * bound * rows.length := by
  have count : (0 : ℚ) < rows.length := by exact_mod_cast List.length_pos_iff.mpr nonempty
  have gap := average_sub_averageOfGroups key value rows nonempty
  have near : |average value rows - averageOfGroups key value rows| ≤ 2 * bound := by
    have first := abs_le.mp close
    have second := abs_le.mp right
    rw [abs_le]
    constructor <;> linarith
  rw [gap, abs_div, abs_of_pos count, div_le_iff₀ count] at near
  exact near

end Averages

section Shares
variable {Row Key : Type*} [DecidableEq Key]

/-- The share of a group in the sum of all rows, as a percentage. -/
def groupShare (key : Row → Key) (weight : Row → ℚ) (rows : List Row) (group : Key) : ℚ :=
  sumOf weight (rows.filter fun row => key row = group) * 100 / sumOf weight rows

variable (key : Row → Key) (weight : Row → ℚ) (rows : List Row)

/-- The exact shares of all groups add up to 100. -/
theorem sum_groupShare (total : sumOf weight rows ≠ 0) :
    sumOf (groupShare key weight rows) (rows.map key).dedup = 100 := by
  have groups := sum_groups key weight (rows.map key).dedup (List.nodup_dedup _) rows
    fun row member => List.mem_dedup.mpr (List.mem_map_of_mem member)
  have scaled : groupShare key weight rows = fun group =>
      (((rows.filter fun row => key row = group).map weight).sum) * (100 / sumOf weight rows) := by
    funext group
    rw [groupShare, mul_div_assoc]
    rfl
  rw [sumOf, scaled, List.sum_map_mul_right, groups]
  change sumOf weight rows * (100 / sumOf weight rows) = 100
  field_simp

/-- The rounded shares are off by at most half a unit of the last place for each group. -/
theorem abs_sum_rounded_shares_sub_le (places : Nat) (total : sumOf weight rows ≠ 0) :
    |sumOf (fun group => roundTo places (groupShare key weight rows group)) (rows.map key).dedup -
      100| ≤ 1 / 2 / 10 ^ places * (rows.map key).dedup.length := by
  rw [← sum_groupShare key weight rows total]
  apply abs_sum_map_sub_le
  intro group _
  exact abs_roundTo_sub_le places _

end Shares

section Distinct
variable {Row Key Value : Type*} [DecidableEq Key] [DecidableEq Value]

/-- The same values occur in lists with the same members. -/
theorem countDistinct_congr {Other : Type*} (value : Row → Value) (other : Other → Value)
    (rows : List Row) (others : List Other)
    (same : ∀ distinct, distinct ∈ rows.map value ↔ distinct ∈ others.map other) :
    countDistinct value rows = countDistinct other others := by
  have sets : (rows.map value).toFinset = (others.map other).toFinset := by
    ext distinct
    rw [List.mem_toFinset, List.mem_toFinset, same]
  rw [countDistinct, countDistinct, ← List.card_toFinset, ← List.card_toFinset, sets]

theorem countDistinct_pos (value : Row → Value) (rows : List Row) (nonempty : rows ≠ []) :
    0 < countDistinct value rows := by
  obtain ⟨row, member⟩ := List.exists_mem_of_ne_nil rows nonempty
  exact List.length_pos_of_mem (List.mem_dedup.mpr (List.mem_map_of_mem member))

/-- Distinct counts of groups add up to the distinct pairs of group and value. -/
theorem sum_countDistinct (key : Row → Key) (value : Row → Value) (rows : List Row) :
    ((rows.map key).dedup.map fun group =>
        countDistinct value (rows.filter fun row => key row = group)).sum =
      countDistinct (fun row => (key row, value row)) rows := by
  have split := sum_groups (Prod.fst : Key × Value → Key) (fun _ => 1) (rows.map key).dedup
    (List.nodup_dedup _) (rows.map fun row => (key row, value row)).dedup (by
      intro pair member
      obtain ⟨row, inside, rfl⟩ := List.mem_map.mp (List.mem_dedup.mp member)
      exact List.mem_dedup.mpr (List.mem_map_of_mem inside))
  simp only [sum_map_one] at split
  rw [countDistinct, ← split]
  congr 1
  apply List.map_congr_left
  intro group _
  have paired : (rows.map fun row => (key row, value row)).filter (fun pair => pair.1 = group) =
      ((rows.filter fun row => key row = group).map value).map (Prod.mk group) := by
    rw [List.filter_map, List.map_map]
    apply List.map_congr_left
    intro row member
    have same : key row = group := of_decide_eq_true (List.mem_filter.mp member).2
    simp [same]
  rw [filter_dedup, paired, List.dedup_map_of_injective (Prod.mk_right_injective group),
    List.length_map]
  rfl

/-- Pairs count their values once exactly when a value decides its group. -/
theorem countDistinct_pair_eq_iff (key : Row → Key) (value : Row → Value) (rows : List Row) :
    countDistinct (fun row => (key row, value row)) rows = countDistinct value rows ↔
      ∀ first ∈ rows, ∀ second ∈ rows, value first = value second → key first = key second := by
  have values : (rows.map value).toFinset =
      (rows.map fun row => (key row, value row)).toFinset.image Prod.snd := by
    ext distinct
    simp
  rw [countDistinct, countDistinct, ← List.card_toFinset, ← List.card_toFinset, values, eq_comm,
    Finset.card_image_iff]
  have paired (row : Row) (inside : row ∈ rows) : (key row, value row) ∈
      ((rows.map fun row => (key row, value row)).toFinset : Set (Key × Value)) :=
    Finset.mem_coe.mpr (List.mem_toFinset.mpr (List.mem_map.mpr ⟨row, inside, rfl⟩))
  constructor
  · intro injective first inFirst second inSecond same
    exact congrArg Prod.fst (injective (paired first inFirst) (paired second inSecond) same)
  · intro decides one inOne two inTwo same
    obtain ⟨first, inFirst, rfl⟩ := List.mem_map.mp (List.mem_toFinset.mp (Finset.mem_coe.mp inOne))
    obtain ⟨second, inSecond, rfl⟩ :=
      List.mem_map.mp (List.mem_toFinset.mp (Finset.mem_coe.mp inTwo))
    exact Prod.ext (decides first inFirst second inSecond same) same

end Distinct

end OdsPipeline.Library
