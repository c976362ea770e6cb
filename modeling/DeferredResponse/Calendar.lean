/-!
# The Gregorian calendar

Days are counted from 1970-01-01. `CivilDate.dayNumber` counts the days up to a date from the
leap-year rule; `CivilDate.ofDayNumber` finds the date of a day by splitting cycles of 400, 100, 4
and 1 years that start in March, so that a leap day comes last in its cycle.
-/

namespace DeferredResponse

/-- Whether a year of the proleptic Gregorian calendar has a 29 February. -/
def isLeapYear (year : Int) : Bool :=
  year % 4 = 0 && (year % 100 ≠ 0 || year % 400 = 0)

/-- The number of leap days in a year. -/
def leapDays (year : Int) : Nat := if isLeapYear year then 1 else 0

/-- The length of a month (1 to 12). -/
def daysInMonth (year : Int) (month : Nat) : Nat :=
  match month with
  | 2 => 28 + leapDays year
  | 4 | 6 | 9 | 11 => 30
  | _ => 31

/-- A date of the proleptic Gregorian calendar. -/
structure CivilDate where
  year : Int
  /-- The month, 1 to 12. -/
  month : Nat
  /-- The day of the month, from 1. -/
  day : Nat
  deriving DecidableEq, Repr

namespace CivilDate

/-- The month and the day exist. -/
def IsValid (date : CivilDate) : Prop :=
  1 ≤ date.month ∧ date.month ≤ 12 ∧ 1 ≤ date.day ∧ date.day ≤ daysInMonth date.year date.month

instance (date : CivilDate) : Decidable date.IsValid := by unfold IsValid; infer_instance

/-- The number of days of a year before the first of a month. -/
def daysBeforeMonth (year : Int) : Nat → Nat
  | 0 | 1 => 0
  | month + 2 => daysBeforeMonth year (month + 1) + daysInMonth year (month + 1)

/-- The number of days from 0001-01-01 to the first day of a year, by the leap-year rule. -/
def daysBeforeYear (year : Int) : Int :=
  let past := year - 1
  365 * past + past / 4 - past / 100 + past / 400

/-- The number of days from 1970-01-01 to a date. -/
def dayNumber (date : CivilDate) : Int :=
  daysBeforeYear date.year - daysBeforeYear 1970 + daysBeforeMonth date.year date.month +
    (date.day - 1)

/-- The date of a day that lies `day` days after the first of March of year `year`, in the year that
starts there. Five months from March or from August have 153 days. -/
def ofMarchDay (year : Int) (day : Nat) : CivilDate :=
  let month := (5 * day + 2) / 153
  let dayOfMonth := day - (153 * month + 2) / 5 + 1
  if month < 10 then { year, month := month + 3, day := dayOfMonth }
  else { year := year + 1, month := month - 9, day := dayOfMonth }

/-- Splits the days of 400 years into whole years and the days left. The years start in March, the
first of them in a year that 400 divides. -/
def splitCycle (day : Nat) : Nat × Nat :=
  let century := min (day / 36524) 3
  let inCentury := day - 36524 * century
  let group := inCentury / 1461
  let inGroup := inCentury % 1461
  let single := min (inGroup / 365) 3
  (100 * century + 4 * group + single, inGroup - 365 * single)

/-- The date of the day that lies a number of days after 1970-01-01, which is 719468 days after the
first of March of the year 0. -/
def ofDayNumber (day : Int) : CivilDate :=
  let shifted := day + 719468
  let (years, days) := splitCycle (shifted % 146097).toNat
  ofMarchDay (400 * (shifted / 146097) + years) days

end CivilDate

inductive Weekday where
  | sunday
  | monday
  | tuesday
  | wednesday
  | thursday
  | friday
  | saturday
  deriving DecidableEq, Repr

/-- The weekday of a day counted from 1970-01-01, which was a Thursday. -/
def Weekday.ofDayNumber (day : Int) : Weekday :=
  match ((day + 4) % 7).toNat with
  | 0 => .sunday
  | 1 => .monday
  | 2 => .tuesday
  | 3 => .wednesday
  | 4 => .thursday
  | 5 => .friday
  | _ => .saturday

end DeferredResponse
