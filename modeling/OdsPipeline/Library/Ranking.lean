import Mathlib.Data.Prod.Lex
import OdsPipeline.Library.Relation

/-
This file contains what ORDER BY measure DESC LIMIT n keeps of its rows.
-/

namespace OdsPipeline.Library

section Ranking
variable {Row Value : Type*} [LinearOrder Value] (measure : Row → Value) (limit : Nat)

theorem perm_orderByDesc (rows : List Row) : (orderByDesc measure rows).Perm rows :=
  List.mergeSort_perm _ _

/-- No row stands before a row with a larger measure. -/
theorem pairwise_orderByDesc (rows : List Row) :
    (orderByDesc measure rows).Pairwise fun first second => measure second ≤ measure first := by
  have transitive : ∀ first second third : Row, decide (measure second ≤ measure first) = true →
      decide (measure third ≤ measure second) = true →
        decide (measure third ≤ measure first) = true := by
    intro first second third before after
    rw [decide_eq_true_eq] at before after ⊢
    exact after.trans before
  have total : ∀ first second : Row, (decide (measure second ≤ measure first) ||
      decide (measure first ≤ measure second)) = true := by
    intro first second
    rw [Bool.or_eq_true, decide_eq_true_eq, decide_eq_true_eq]
    exact le_total _ _
  have sorted := List.pairwise_mergeSort transitive total rows
  exact sorted.imp fun before => of_decide_eq_true before

/-- The first rows of the order. -/
def topRows (rows : List Row) : List Row := (orderByDesc measure rows).take limit

theorem topRows_subset (rows : List Row) : topRows measure limit rows ⊆ rows := fun _ member =>
  (mem_orderByDesc measure rows _).mp (List.mem_of_mem_take member)

theorem pairwise_topRows (rows : List Row) :
    (topRows measure limit rows).Pairwise fun first second => measure second ≤ measure first :=
  (pairwise_orderByDesc measure rows).sublist (List.take_sublist _ _)

theorem nodup_topRows (rows : List Row) (distinct : rows.Nodup) :
    (topRows measure limit rows).Nodup :=
  (List.take_sublist _ _).nodup ((perm_orderByDesc measure rows).nodup_iff.mpr distinct)

/-- A limit that is not reached drops no row. -/
theorem topRows_perm (rows : List Row) (short : (topRows measure limit rows).length < limit) :
    (topRows measure limit rows).Perm rows := by
  have fits : (orderByDesc measure rows).length ≤ limit := by
    rw [topRows, List.length_take] at short
    omega
  rw [topRows, List.take_of_length_le fits]
  exact perm_orderByDesc measure rows

/-- A dropped row has a full list of rows before it. -/
theorem mem_topRows_or (rows : List Row) (row : Row) (member : row ∈ rows) :
    row ∈ topRows measure limit rows ∨
      (topRows measure limit rows).length = limit ∧
        ∀ kept ∈ topRows measure limit rows, measure row ≤ measure kept := by
  have inside := (mem_orderByDesc measure rows row).mpr member
  have sorted := pairwise_orderByDesc measure rows
  rw [← List.take_append_drop limit (orderByDesc measure rows)] at inside sorted
  rcases List.mem_append.mp inside with kept | dropped
  · exact Or.inl kept
  · refine Or.inr ⟨?_, fun kept first => (List.pairwise_append.mp sorted).2.2 kept first row dropped⟩
    have longer := List.length_pos_of_mem dropped
    rw [List.length_drop] at longer
    rw [topRows, List.length_take]
    omega

end Ranking

section Groups
variable {Row Stored Key Value : Type*} [DecidableEq Key]

/-- Projected rows are grouped as the rows themselves. -/
theorem groupBy_map (key : Stored → Key) (aggregate : Key → List Stored → Value)
    (stored : Row → Stored) (rows : List Row) :
    groupBy key aggregate (rows.map stored) =
      groupBy (fun row => key (stored row))
        (fun group rows => aggregate group (rows.map stored)) rows := by
  rw [groupBy, groupBy, List.map_map]
  apply List.map_congr_left
  intro group _
  rw [List.filter_map]
  rfl

/-- Each group has one row. -/
theorem nodup_groupBy (key : Row → Key) (aggregate : Key → List Row → Value) (rows : List Row)
    (groupOf : Value → Key) (named : ∀ group rows, groupOf (aggregate group rows) = group) :
    (groupBy key aggregate rows).Nodup := by
  apply List.Nodup.of_map groupOf
  have groups : (groupBy key aggregate rows).map groupOf = (rows.map key).dedup := by
    rw [groupBy, List.map_map]
    exact (List.map_congr_left fun group _ => named group _).trans (List.map_id _)
  rw [groups]
  exact List.nodup_dedup _

end Groups

end OdsPipeline.Library
