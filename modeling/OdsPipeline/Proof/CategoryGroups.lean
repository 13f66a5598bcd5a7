import OdsPipeline.Construction.ProductProcessor
import OdsPipeline.Library.LetterCase

namespace OdsPipeline.ProductProcessor
open Library SqlQueries

/-- The named groups in the order of the statement. -/
inductive NamedGroup where
  | electronics
  | fashion
  | home
  | sports
  deriving DecidableEq

namespace NamedGroup

def label : NamedGroup → String
  | .electronics => "Electronics"
  | .fashion => "Fashion"
  | .home => "Home"
  | .sports => "Sports"

/-- The names of a group contain one of these words, in English or in Portuguese. -/
def words : NamedGroup → List String
  | .electronics => ["electronic", "eletronic", "informatica"]
  | .fashion => ["fashion", "moda"]
  | .home => ["home", "casa"]
  | .sports => ["sport", "esporte"]

/-- The words that the clean statement looks for. -/
def statementWords : NamedGroup → List String
  | .electronics => ["informatica", "eletronic"]
  | .fashion => ["fashion", "moda"]
  | .home => ["casa", "home"]
  | .sports => ["esporte", "sport"]

/-- The branch of the CASE for a group. -/
def condition (name : Option String) : NamedGroup → Truth
  | .electronics => (lowerLike name "informatica").or (lowerLike name "eletronic")
  | .fashion => (lowerLike name "fashion").or (lowerLike name "moda")
  | .home => (lowerLike name "casa").or (lowerLike name "home")
  | .sports => (lowerLike name "esporte").or (lowerLike name "sport")

def all : List NamedGroup := [.electronics, .fashion, .home, .sports]

theorem mem_all (group : NamedGroup) : group ∈ all := by cases group <;> decide

theorem statementWords_ascii (group : NamedGroup) :
    ∀ word ∈ group.statementWords, ∀ letter ∈ word.toList, letter.toNat < 128 := by
  have ascii : group.statementWords.all fun word =>
      word.toList.all fun letter => letter.toNat < 128 := by
    cases group <;> decide
  simpa only [List.all_eq_true, decide_eq_true_eq] using ascii

theorem statementWords_subset (group : NamedGroup) : group.statementWords ⊆ group.words := by
  cases group <;> decide

/-- The statement misses one word only. -/
theorem words_covered (group : NamedGroup) : ∀ word ∈ group.words,
    word ∈ group.statementWords ∨ group = .electronics ∧ word = "electronic" := by
  cases group <;> decide

end NamedGroup

section Names
variable (unicode : LowerCase) (name : String)

/-- A name shows a word in any letter case. -/
def Shows (word : String) : Prop := contains word (unicode.toLower name) = true

def InGroup (group : NamedGroup) : Prop := ∃ word ∈ group.words, Shows unicode name word

/-- The statement sees a group when one of its own words is in the name. -/
def Sees (group : NamedGroup) : Prop := ∃ word ∈ group.statementWords, Shows unicode name word

instance (word : String) : Decidable (Shows unicode name word) :=
  inferInstanceAs (Decidable (_ = true))

instance (group : NamedGroup) : Decidable (InGroup unicode name group) :=
  inferInstanceAs (Decidable (∃ word ∈ group.words, _))

instance (group : NamedGroup) : Decidable (Sees unicode name group) :=
  inferInstanceAs (Decidable (∃ word ∈ group.statementWords, _))

/-- A name of one group gets its label, a name of no group gets the rest, and the letter case does
not matter. -/
structure GroupedRight : Prop where
  one : ∀ group, InGroup unicode name group →
    (∀ other, InGroup unicode name other → other = group) →
      categoryGroup (some name) = group.label
  rest : (∀ group, ¬ InGroup unicode name group) → categoryGroup (some name) = "Other"
  letterCase : ∀ other, unicode.toLower other = unicode.toLower name →
    categoryGroup (some other) = categoryGroup (some name)

theorem inGroup_of_sees {group : NamedGroup} (sees : Sees unicode name group) :
    InGroup unicode name group := by
  obtain ⟨word, member, shown⟩ := sees
  exact ⟨word, group.statementWords_subset member, shown⟩

/-- The words of the statement are ASCII, so it reads them as any lower case does. -/
theorem lowerLike_eq_true_iff (group : NamedGroup) (word : String)
    (member : word ∈ group.statementWords) :
    lowerLike (some name) word = .true ↔ Shows unicode name word := by
  rw [Shows, unicode.contains_toLower word name (group.statementWords_ascii word member)]
  exact Truth.ofBool_eq_true_iff _

theorem condition_eq_true_iff (group : NamedGroup) :
    group.condition (some name) = .true ↔ Sees unicode name group := by
  have pair (first second : String) (words : group.statementWords = [first, second]) :
      (lowerLike (some name) first).or (lowerLike (some name) second) = .true ↔
        Sees unicode name group := by
    rw [Truth.or_eq_true_iff, lowerLike_eq_true_iff unicode name group first (by simp [words]),
      lowerLike_eq_true_iff unicode name group second (by simp [words]), Sees, words]
    simp
  cases group with
  | electronics => exact pair "informatica" "eletronic" rfl
  | fashion => exact pair "fashion" "moda" rfl
  | home => exact pair "casa" "home" rfl
  | sports => exact pair "esporte" "sport" rfl

/-- The statement takes the first group that it sees. -/
theorem categoryGroup_eq : categoryGroup (some name) =
    (NamedGroup.all.find? fun group => Sees unicode name group).elim "Other" NamedGroup.label := by
  have branches : categoryGroup (some name) = caseWhen
      (NamedGroup.all.map fun group => (group.condition (some name), group.label)) "Other" := rfl
  simp only [branches, caseWhen_map, condition_eq_true_iff unicode]

theorem categoryGroup_eq_other (unseen : ∀ group, ¬ Sees unicode name group) :
    categoryGroup (some name) = "Other" := by
  have none : (NamedGroup.all.find? fun group => Sees unicode name group) = none := by
    rw [List.find?_eq_none]
    intro group _ sees
    exact unseen group (of_decide_eq_true sees)
  rw [categoryGroup_eq unicode, none]
  rfl

/-- A name that the statement sees gets the label of one of its groups. -/
theorem categoryGroup_mem {group : NamedGroup} (sees : Sees unicode name group) :
    ∃ first, InGroup unicode name first ∧ categoryGroup (some name) = first.label := by
  have found : (NamedGroup.all.find? fun group => Sees unicode name group).isSome := by
    rw [List.find?_isSome]
    exact ⟨group, group.mem_all, decide_eq_true sees⟩
  obtain ⟨first, same⟩ := Option.isSome_iff_exists.mp found
  have seen := List.find?_some same
  refine ⟨first, inGroup_of_sees unicode name (of_decide_eq_true seen), ?_⟩
  rw [categoryGroup_eq unicode, same]
  rfl

theorem categoryGroup_congr (other : String) (same : unicode.toLower other = unicode.toLower name) :
    categoryGroup (some other) = categoryGroup (some name) := by
  have alike (group : NamedGroup) : Sees unicode other group ↔ Sees unicode name group := by
    simp only [Sees, Shows, same]
  simp only [categoryGroup_eq unicode, alike]

end Names

/-- A name is grouped right unless it shows the English word for electronics and no word of the
statement. -/
theorem grouped_right_iff (unicode : LowerCase) (name : String) :
    GroupedRight unicode name ↔
      (Shows unicode name "electronic" → ∃ group, Sees unicode name group) := by
  constructor
  · intro right electronic
    by_contra unseen
    rw [not_exists] at unseen
    have only : ∀ other, InGroup unicode name other → other = .electronics := by
      rintro other ⟨word, member, shown⟩
      rcases other.words_covered word member with known | ⟨same, -⟩
      · exact absurd ⟨word, known, shown⟩ (unseen other)
      · exact same
    have labelled := right.one .electronics ⟨"electronic", by decide, electronic⟩ only
    rw [categoryGroup_eq_other unicode name unseen] at labelled
    exact absurd labelled (by decide)
  · intro covered
    have seen : ∀ group, InGroup unicode name group → ∃ group, Sees unicode name group := by
      rintro group ⟨word, member, shown⟩
      rcases group.words_covered word member with known | ⟨-, rfl⟩
      · exact ⟨group, word, known, shown⟩
      · exact covered shown
    constructor
    case one =>
      intro group inside only
      obtain ⟨known, sees⟩ := seen group inside
      obtain ⟨first, shown, labelled⟩ := categoryGroup_mem unicode name sees
      rw [labelled, only first shown]
    case rest =>
      intro none
      apply categoryGroup_eq_other unicode name
      intro group sees
      exact none group (inGroup_of_sees unicode name sees)
    case letterCase => exact categoryGroup_congr unicode name

def electronicsRow : ProductsSource := ⟨⟨some "p1", some "electronics"⟩, some false⟩

/-- A product of the dataset is accepted, belongs to one group only, and gets the rest. -/
theorem electronics_grouped_other :
    processProductsWithSQL.clean.Selects electronicsRow ∧
    InGroup .plain "electronics" .electronics ∧
    (∀ other, InGroup .plain "electronics" other → other = .electronics) ∧
    ∀ now, (processProductsWithSQL.clean.select now electronicsRow).data.categoryGroup = "Other" := by
  refine ⟨by decide, by decide, ?_, ?_⟩
  · intro other
    cases other <;> decide
  · intro now
    change categoryGroup (some "electronics") = "Other"
    decide

end OdsPipeline.ProductProcessor
