import Mathlib.Data.Int.Notation
import Mathlib.Tactic.TypeStar

/-
This file reads calendar fields from timestamps in the proleptic Gregorian calendar.
-/

namespace OdsPipeline.Library

/-- A timestamp counts milliseconds from 1970-01-01 00:00:00. -/
abbrev Timestamp := Int

/-- A date counts days from 1970-01-01. -/
abbrev Date := Int

def dayMillis : Int := 86400000

def Timestamp.date (time : Timestamp) : Date := time / dayMillis

structure CivilDate where
  year : Int
  month : Int
  day : Int
  deriving DecidableEq, Repr

/-- The years here start in March, so that a leap day is the last day of its year. -/
def civilDate (date : Date) : CivilDate :=
  let shifted := date + 719468
  let era := shifted / 146097
  let dayOfEra := shifted % 146097
  let yearOfEra := (dayOfEra - dayOfEra / 1460 + dayOfEra / 36524 - dayOfEra / 146096) / 365
  let dayOfYear := dayOfEra - (365 * yearOfEra + yearOfEra / 4 - yearOfEra / 100)
  let shiftedMonth := (5 * dayOfYear + 2) / 153
  let month := if shiftedMonth < 10 then shiftedMonth + 3 else shiftedMonth - 9
  { year := yearOfEra + era * 400 + (if month ≤ 2 then 1 else 0)
    month := month
    day := dayOfYear - (153 * shiftedMonth + 2) / 5 + 1 }

/-- The weekday is 1 on Sunday and 7 on Saturday. -/
def dayOfWeek (date : Date) : Int := (date + 4) % 7 + 1

/-- The difference counts whole days and truncates toward zero. -/
def timestampDiffDay (start stop : Timestamp) : Int := (stop - start).tdiv dayMillis

example : civilDate 0 = ⟨1970, 1, 1⟩ ∧ civilDate 19782 = ⟨2024, 2, 29⟩ := by decide

example : dayOfWeek 0 = 5 := by decide

end OdsPipeline.Library
