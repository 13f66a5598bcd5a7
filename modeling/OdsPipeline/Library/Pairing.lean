import OdsPipeline.Library.Relation

/-
This file joins lists that grow by matching pairs.
-/

namespace OdsPipeline.Library

section Append
variable {Left Right : Type*} (on : Left → Right → Bool)

/-- Two joins without a match across them stand side by side. -/
theorem join_append (left newLeft : List Left) (right newRight : List Right)
    (apart : ∀ row ∈ left, ∀ other ∈ newRight, on row other ≠ true)
    (apartNew : ∀ row ∈ newLeft, ∀ other ∈ right, on row other ≠ true) :
    join (left ++ newLeft) (right ++ newRight) on =
      join left right on ++ join newLeft newRight on := by
  have old : join left (right ++ newRight) on = join left right on := by
    apply List.flatMap_congr
    intro row member
    have none : newRight.filter (on row) = [] := List.filter_eq_nil_iff.mpr (apart row member)
    rw [List.filter_append, none, List.append_nil]
  have new : join newLeft (right ++ newRight) on = join newLeft newRight on := by
    apply List.flatMap_congr
    intro row member
    have none : right.filter (on row) = [] := List.filter_eq_nil_iff.mpr (apartNew row member)
    rw [List.filter_append, none, List.nil_append]
  rw [← old, ← new]
  exact List.flatMap_append

end Append

section Pairs
variable {Item Key : Type*} {Left Right : Type} [DecidableEq Key]

/-- The two rows that an item has on the sides of a join. -/
def paired (left : Item → Option Left) (right : Item → Option Right) (item : Item) :
    Option (Left × Right) := do
  return (← left item, ← right item)

theorem filterMap_cons_toList {Value : Type*} (value : Item → Option Value) (item : Item)
    (rest : List Item) :
    (item :: rest).filterMap value = (value item).toList ++ rest.filterMap value := by
  cases found : value item with
  | none => rw [List.filterMap_cons_none found]; rfl
  | some row => rw [List.filterMap_cons_some found]; rfl

/-- A join at the key of its items pairs the two rows of each item. -/
theorem join_filterMap (items : List Item) (key : Item → Key) (distinct : (items.map key).Nodup)
    (left : Item → Option Left) (right : Item → Option Right) (leftKey : Left → Key)
    (rightKey : Right → Key) (ownLeft : ∀ item, ∀ row ∈ left item, leftKey row = key item)
    (ownRight : ∀ item, ∀ row ∈ right item, rightKey row = key item) :
    join (items.filterMap left) (items.filterMap right) (fun row other =>
        leftKey row = rightKey other) = items.filterMap (paired left right) := by
  induction items with
  | nil => rfl
  | cons item rest ih =>
      obtain ⟨absent, later⟩ := List.nodup_cons.mp distinct
      rw [filterMap_cons_toList, filterMap_cons_toList, filterMap_cons_toList, join_append, ih later]
      · congr 1
        cases first : left item with
        | none => rw [paired, first]; rfl
        | some row =>
            cases second : right item with
            | none => rw [paired, first, second]; rfl
            | some other =>
                have same : leftKey row = rightKey other :=
                  (ownLeft item row first).trans (ownRight item other second).symm
                rw [paired, first, second]
                simp [join, same]
      · intro row own other member same
        obtain ⟨next, inside, stored⟩ := List.mem_filterMap.mp member
        have ofItem := ownLeft item row (Option.mem_toList.mp own)
        rw [of_decide_eq_true same, ownRight next other stored] at ofItem
        exact absent (List.mem_map.mpr ⟨next, inside, ofItem⟩)
      · intro row member other own same
        obtain ⟨next, inside, stored⟩ := List.mem_filterMap.mp member
        have ofItem := ownRight item other (Option.mem_toList.mp own)
        rw [← of_decide_eq_true same, ownLeft next row stored] at ofItem
        exact absent (List.mem_map.mpr ⟨next, inside, ofItem⟩)

end Pairs

end OdsPipeline.Library
