import Mathlib.Data.List.Basic
import Mathlib.Tactic.TypeStar

namespace OdsPipeline.Library

/-- An SQL condition takes one of three values. -/
inductive Truth where
  | true
  | false
  | unknown
  deriving DecidableEq, Repr

namespace Truth

def ofBool (value : Bool) : Truth := if value then .true else .false

/-- NOT keeps an unknown value unknown. -/
def not : Truth → Truth
  | .true => .false
  | .false => .true
  | .unknown => .unknown

/-- AND is false as soon as one side is false. -/
def and : Truth → Truth → Truth
  | .false, _ => .false
  | _, .false => .false
  | .true, .true => .true
  | _, _ => .unknown

/-- OR is true as soon as one side is true. -/
def or : Truth → Truth → Truth
  | .true, _ => .true
  | _, .true => .true
  | .false, .false => .false
  | _, _ => .unknown

/-- A chain of AND conditions. -/
def all : List Truth → Truth
  | [] => .true
  | condition :: rest => and condition (all rest)

/-- A chain of OR conditions. -/
def any : List Truth → Truth
  | [] => .false
  | condition :: rest => or condition (any rest)

theorem ofBool_eq_true_iff (value : Bool) : ofBool value = .true ↔ value = Bool.true := by
  cases value <;> decide

theorem ofBool_eq_false_iff (value : Bool) : ofBool value = .false ↔ value = Bool.false := by
  cases value <;> decide

@[simp] theorem not_eq_true_iff (condition : Truth) : condition.not = .true ↔ condition = .false := by
  cases condition <;> decide

theorem and_eq_true_iff (left right : Truth) :
    left.and right = .true ↔ left = .true ∧ right = .true := by
  cases left <;> cases right <;> decide

theorem and_eq_false_iff (left right : Truth) :
    left.and right = .false ↔ left = .false ∨ right = .false := by
  cases left <;> cases right <;> decide

theorem or_eq_true_iff (left right : Truth) :
    left.or right = .true ↔ left = .true ∨ right = .true := by
  cases left <;> cases right <;> decide

/-- A chain of AND holds when every member holds. -/
theorem all_eq_true_iff (conditions : List Truth) :
    all conditions = .true ↔ ∀ condition ∈ conditions, condition = .true := by
  induction conditions with
  | nil => simp [all]
  | cons condition rest ih => rw [all, and_eq_true_iff, ih, List.forall_mem_cons]

/-- A chain of AND fails when one member fails. -/
theorem all_eq_false_iff (conditions : List Truth) :
    all conditions = .false ↔ ∃ condition ∈ conditions, condition = .false := by
  induction conditions with
  | nil => simp [all]
  | cons condition rest ih => rw [all, and_eq_false_iff, ih, List.exists_mem_cons_iff]

/-- A chain of AND is unknown when no member fails and one member is unknown. -/
theorem all_eq_unknown_iff (conditions : List Truth) :
    all conditions = .unknown ↔
      (∀ condition ∈ conditions, condition ≠ .false) ∧
        ∃ condition ∈ conditions, condition = .unknown := by
  have split : all conditions = .unknown ↔ all conditions ≠ .false ∧ all conditions ≠ .true := by
    cases all conditions <;> decide
  rw [split, Ne, Ne, all_eq_false_iff, all_eq_true_iff]
  push Not
  refine and_congr_right fun noneFails => exists_congr fun condition => and_congr_right fun member => ?_
  have notFalse := noneFails condition member
  cases condition <;> simp_all

/-- A condition and its negation select a row exactly once when the value is known. -/
theorem xor_not_iff (condition : Truth) :
    Xor (condition = .true) (condition.not = .true) ↔ condition ≠ .unknown := by
  cases condition <;> simp [not, Xor]

end Truth

section Nullable
variable {α : Type*}

def isNull (value : Option α) : Truth := .ofBool value.isNone

def isNotNull (value : Option α) : Truth := .ofBool value.isSome

/-- A test of a nullable value is unknown on NULL. -/
def check (value : Option α) (test : α → Bool) : Truth :=
  match value with
  | none => .unknown
  | some present => .ofBool (test present)

/-- A comparison of two nullable values is unknown when one of them is NULL. -/
def checkBoth {β : Type*} (left : Option α) (right : Option β) (test : α → β → Bool) : Truth :=
  match left, right with
  | some first, some second => .ofBool (test first second)
  | _, _ => .unknown

@[simp] theorem isNull_eq_true_iff (value : Option α) : isNull value = .true ↔ value = none := by
  cases value <;> simp [isNull, Truth.ofBool]

@[simp] theorem isNotNull_eq_true_iff (value : Option α) :
    isNotNull value = .true ↔ value.isSome = true := by
  cases value <;> simp [isNotNull, Truth.ofBool]

@[simp] theorem isNotNull_eq_false_iff (value : Option α) : isNotNull value = .false ↔ value = none := by
  cases value <;> simp [isNotNull, Truth.ofBool]

@[simp] theorem isNotNull_ne_unknown (value : Option α) : isNotNull value ≠ .unknown := by
  cases value <;> simp [isNotNull, Truth.ofBool]

/-- A test is unknown exactly on NULL. -/
@[simp] theorem check_eq_unknown_iff (value : Option α) (test : α → Bool) :
    check value test = .unknown ↔ value = none := by
  cases value with
  | none => simp [check]
  | some present => cases tested : test present <;> simp [check, Truth.ofBool, tested]

@[simp] theorem check_eq_true_iff (value : Option α) (test : α → Bool) :
    check value test = .true ↔ ∃ present, value = some present ∧ test present = true := by
  cases value <;> simp [check, Truth.ofBool_eq_true_iff]

@[simp] theorem check_eq_false_iff (value : Option α) (test : α → Bool) :
    check value test = .false ↔ ∃ present, value = some present ∧ test present = false := by
  cases value <;> simp [check, Truth.ofBool_eq_false_iff]

end Nullable

section Case
variable {Value : Type*}

/-- A searched CASE returns the value of the first true branch. -/
def caseWhen : List (Truth × Value) → Value → Value
  | [], otherwise => otherwise
  | (condition, value) :: rest, otherwise =>
      if condition = .true then value else caseWhen rest otherwise

/-- A searched CASE returns one of its listed values. -/
theorem caseWhen_mem_values (branches : List (Truth × Value)) (otherwise : Value) :
    caseWhen branches otherwise ∈ otherwise :: branches.map Prod.snd := by
  induction branches with
  | nil => exact List.mem_cons_self
  | cons branch rest ih =>
      rw [caseWhen]
      split
      · simp
      · rcases List.mem_cons.mp ih with other | later
        · rw [other]
          exact List.mem_cons_self
        · exact List.mem_cons_of_mem _ (List.mem_cons_of_mem _ later)

/-- A searched CASE over a list returns the value of the first entry whose condition is true. -/
theorem caseWhen_map {Entry : Type*} (entries : List Entry) (condition : Entry → Truth)
    (value : Entry → Value) (otherwise : Value) :
    caseWhen (entries.map fun entry => (condition entry, value entry)) otherwise =
      (entries.find? fun entry => condition entry = .true).elim otherwise value := by
  induction entries with
  | nil => rfl
  | cons entry rest ih =>
      rw [List.map_cons, caseWhen, ih, List.find?_cons]
      by_cases holds : condition entry = .true
      · simp [holds]
      · simp [holds]

end Case

end OdsPipeline.Library
