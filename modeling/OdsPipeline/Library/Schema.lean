import Mathlib.Algebra.Order.Ring.Rat
import OdsPipeline.Library.Calendar

/-
This file checks a record of named cells against the columns of a table.
-/

namespace OdsPipeline.Library

inductive SqlType where
  | varchar (bound : Nat)
  | int
  | double
  | boolean
  | datetime
  | json
  deriving DecidableEq, Repr

inductive Cell where
  | null
  | text (value : String)
  | int (value : Int)
  | double (value : ℚ)
  | boolean (value : Bool)
  | datetime (value : Timestamp)
  deriving DecidableEq, Repr

/-- A nullable value becomes a cell of its type. -/
def Cell.ofOption {Value : Type} (wrap : Value → Cell) : Option Value → Cell
  | none => .null
  | some value => wrap value

/-- VARCHAR(n) bounds the number of UTF-8 bytes. -/
def SqlType.fits : SqlType → Cell → Prop
  | .varchar bound, .text value => value.utf8ByteSize ≤ bound
  | _, _ => True

structure ColumnDef where
  name : String
  type : SqlType
  notNull : Bool
  deriving DecidableEq, Repr

structure TableDef where
  columns : List ColumnDef
  primaryKey : List String
  deriving DecidableEq, Repr

/-- A record names each of its cells. -/
abbrev Record := List (String × Cell)

def Record.cell (record : Record) (name : String) : Cell := (record.lookup name).getD .null

/-- Every listed column has a value. -/
def Record.Present (record : Record) (names : List String) : Prop :=
  ∀ name ∈ names, record.cell name ≠ .null

/-- The columns that a table declares as NOT NULL. -/
def TableDef.required (table : TableDef) : List String :=
  (table.columns.filter ColumnDef.notNull).map ColumnDef.name

/-- Every text fits the type of its column. -/
def TableDef.Fits (table : TableDef) (record : Record) : Prop :=
  ∀ column ∈ table.columns, column.type.fits (record.cell column.name)

/-- A table admits a record that satisfies NOT NULL and VARCHAR(n) in every column. -/
def TableDef.Admits (table : TableDef) (record : Record) : Prop :=
  record.Present table.required ∧ table.Fits record

instance (record : Record) (names : List String) : Decidable (record.Present names) :=
  inferInstanceAs (Decidable (∀ name ∈ names, _))

instance (type : SqlType) (cell : Cell) : Decidable (type.fits cell) :=
  match type, cell with
  | .varchar bound, .text value => inferInstanceAs (Decidable (value.utf8ByteSize ≤ bound))
  | .varchar _, .null | .varchar _, .int _ | .varchar _, .double _ | .varchar _, .boolean _
  | .varchar _, .datetime _ | .int, _ | .double, _ | .boolean, _ | .datetime, _ | .json, _ =>
      inferInstanceAs (Decidable True)

instance (table : TableDef) (record : Record) : Decidable (table.Fits record) :=
  inferInstanceAs (Decidable (∀ column ∈ table.columns, _))

instance (table : TableDef) (record : Record) : Decidable (table.Admits record) :=
  inferInstanceAs (Decidable (_ ∧ _))

theorem Cell.ofOption_eq_null_iff {Value : Type} (wrap : Value → Cell)
    (proper : ∀ value, wrap value ≠ .null) (value : Option Value) :
    Cell.ofOption wrap value = .null ↔ value = none := by
  cases value <;> simp [ofOption, proper]

theorem SqlType.fits_varchar_text (bound : Nat) (value : String) :
    (SqlType.varchar bound).fits (.text value) ↔ value.utf8ByteSize ≤ bound := Iff.rfl

theorem SqlType.fits_varchar_ofOption (bound : Nat) (value : Option String) :
    (SqlType.varchar bound).fits (.ofOption .text value) ↔
      ∀ text ∈ value, text.utf8ByteSize ≤ bound := by
  cases value <;> simp [fits, Cell.ofOption]

/-- A type other than VARCHAR does not bound its cells. -/
theorem SqlType.fits_of_ne_varchar (type : SqlType) (cell : Cell)
    (other : ∀ bound, type ≠ .varchar bound) : type.fits cell := by
  cases type with
  | varchar bound => exact absurd rfl (other bound)
  | _ => exact trivial

end OdsPipeline.Library
