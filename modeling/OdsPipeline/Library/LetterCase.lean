import OdsPipeline.Library.Text

/-
This file compares texts up to the case of their letters.
-/

namespace OdsPipeline.Library

/-- All letters outside ASCII look the same to an ASCII keyword. -/
def blur (letter : Char) : Char := if letter.toNat < 128 then letter else '\ufffd'

/-- A lower case of Unicode differs from `lower` only in the letters that it writes outside ASCII. -/
structure LowerCase where
  toLower : String → String
  blurred : ∀ text, (toLower text).toList.map blur = (lower text).toList.map blur

namespace LowerCase

/-- A lower case that leaves the letters outside ASCII as they are. -/
def plain : LowerCase := ⟨lower, fun _ => rfl⟩

theorem blur_eq_iff (letter ascii : Char) (small : ascii.toNat < 128) :
    blur letter = ascii ↔ letter = ascii := by
  unfold blur
  split
  · rfl
  · next large =>
      constructor
      · rintro rfl
        exact absurd small (by decide)
      · rintro rfl
        exact absurd small large

/-- An ASCII keyword is at the same places in a text and in its blurred copy. -/
theorem infix_map_blur_iff (keyword letters : List Char) (ascii : ∀ letter ∈ keyword, letter.toNat < 128) :
    keyword <:+: letters.map blur ↔ keyword <:+: letters := by
  have sharp : ∀ part : List Char, part.map blur = keyword → part = keyword := by
    rintro part rfl
    apply (List.map_id part).symm.trans
    apply List.map_congr_left
    intro letter member
    have small := ascii (blur letter) (List.mem_map_of_mem member)
    exact (blur_eq_iff letter _ small).mp rfl
  rw [List.infix_map_iff]
  constructor
  · rintro ⟨part, inside, same⟩
    rw [← sharp part same.symm]
    exact inside
  · intro inside
    refine ⟨keyword, inside, ?_⟩
    rw [List.map_congr_left fun letter member => (blur_eq_iff letter _ (ascii letter member)).mpr rfl,
      List.map_id']

/-- Every lower case shows the same ASCII keywords. -/
theorem contains_toLower (unicode : LowerCase) (keyword text : String)
    (ascii : ∀ letter ∈ keyword.toList, letter.toNat < 128) :
    contains keyword (unicode.toLower text) = contains keyword (lower text) := by
  have same : keyword.toList <:+: (unicode.toLower text).toList ↔
      keyword.toList <:+: (lower text).toList := by
    rw [← infix_map_blur_iff _ _ ascii, unicode.blurred, infix_map_blur_iff _ _ ascii]
  exact decide_eq_decide.mpr same

end LowerCase

end OdsPipeline.Library
