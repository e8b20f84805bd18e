/-!
The proleptic Gregorian calendar. Days are counted from 1970-01-01, years run through zero into
the negative.
-/

namespace PingPost

/-- A calendar date. -/
structure CivilDate where
  year : Int
  month : Nat
  day : Nat
  deriving DecidableEq, Repr

namespace CivilDate

/-- Whether February has 29 days. -/
def isLeap (year : Int) : Bool := year % 4 == 0 && (year % 100 != 0 || year % 400 == 0)

/-- Days of a month. -/
def monthLength (year : Int) (month : Nat) : Nat :=
  match month with
  | 2 => if isLeap year then 29 else 28
  | 4 | 6 | 9 | 11 => 30
  | _ => 31

/-- First and last year that the calendar holds. -/
def firstYear : Int := -262143

/-- Last year that the calendar holds. -/
def lastYear : Int := 262142

/-- Whether the date exists and lies in the range of the calendar. -/
def isValid (d : CivilDate) : Bool :=
  firstYear ≤ d.year && d.year ≤ lastYear && 1 ≤ d.month && d.month ≤ 12 && 1 ≤ d.day &&
    d.day ≤ monthLength d.year d.month

/-- Day number of a date. Years are counted from March, so the leap day comes last, and in
cycles of 400 years. -/
def toDays (d : CivilDate) : Int :=
  let y : Int := if d.month ≤ 2 then d.year - 1 else d.year
  let era := y.fdiv 400
  let yearOfEra := y - era * 400
  let shifted : Int := (d.month + 9) % 12
  let dayOfYear := (153 * shifted + 2) / 5 + d.day - 1
  let dayOfEra := yearOfEra * 365 + yearOfEra / 4 - yearOfEra / 100 + dayOfYear
  era * 146097 + dayOfEra - 719468

/-- Date of a day number. -/
def ofDays (days : Int) : CivilDate :=
  let z := days + 719468
  let era := z.fdiv 146097
  let dayOfEra := z - era * 146097
  let yearOfEra := (dayOfEra - dayOfEra / 1460 + dayOfEra / 36524 - dayOfEra / 146096) / 365
  let dayOfYear := dayOfEra - (365 * yearOfEra + yearOfEra / 4 - yearOfEra / 100)
  let shifted := (5 * dayOfYear + 2) / 153
  let day := (dayOfYear - (153 * shifted + 2) / 5 + 1).toNat
  let month := (if shifted < 10 then shifted + 3 else shifted - 9).toNat
  { year := yearOfEra + era * 400 + (if month ≤ 2 then 1 else 0), month, day }

/-- Day of the year, from 1. -/
def ordinal (d : CivilDate) : Nat := (d.toDays - toDays ⟨d.year, 1, 1⟩ + 1).toNat

/-- Day of the week, Monday 0 to Sunday 6. -/
def weekday (d : CivilDate) : Nat := ((d.toDays + 3).fmod 7).toNat

/-- Number of the week in the year, where weeks start `shift` days after Sunday and the days
before the first such day are week 0. -/
def weekFrom (shift : Nat) (d : CivilDate) : Nat :=
  (d.ordinal + 6 - (d.weekday + 8 - shift) % 7) / 7

/-- Weeks of a year that belong to it by their Thursday. -/
def isoWeeks (year : Int) : Nat :=
  let start := weekday ⟨year, 1, 1⟩
  if start = 3 ∨ (start = 2 ∧ isLeap year) then 53 else 52

/-- Year and number of the week whose Thursday decides. -/
def isoWeek (d : CivilDate) : Int × Nat :=
  let week := (d.ordinal + 9 - d.weekday) / 7
  if week < 1 then (d.year - 1, isoWeeks (d.year - 1))
  else if isoWeeks d.year < week then (d.year + 1, 1)
  else (d.year, week)

end CivilDate

end PingPost
