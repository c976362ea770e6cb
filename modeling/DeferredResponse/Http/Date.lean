import DeferredResponse.Calendar
import DeferredResponse.Instant

/-!
# HTTP dates

The text of an instant as `Www, DD Mon Y HH:MM:SS GMT`. Fractions of a second are dropped. Years
from 0 to 9999 have four digits, all others a sign and at least four digits. Only the years -262143
to 262142 can be written.
-/

namespace DeferredResponse.Http

open Text (padded)

/-- The short name of a weekday. -/
def weekdayName : Weekday → String
  | .sunday => "Sun"
  | .monday => "Mon"
  | .tuesday => "Tue"
  | .wednesday => "Wed"
  | .thursday => "Thu"
  | .friday => "Fri"
  | .saturday => "Sat"

/-- The short name of a month (1 to 12). -/
def monthName : Nat → String
  | 1 => "Jan"
  | 2 => "Feb"
  | 3 => "Mar"
  | 4 => "Apr"
  | 5 => "May"
  | 6 => "Jun"
  | 7 => "Jul"
  | 8 => "Aug"
  | 9 => "Sep"
  | 10 => "Oct"
  | 11 => "Nov"
  | _ => "Dec"

/-- The text of a year. -/
def yearText (year : Int) : List Char :=
  if 0 ≤ year ∧ year ≤ 9999 then padded 4 year.toNat
  else (if year < 0 then '-' else '+') :: padded 4 year.natAbs

/-- The text of the time of day that starts after a number of seconds. -/
def clockText (second : Nat) : List Char :=
  padded 2 (second / 3600) ++ ':' :: padded 2 (second / 60 % 60) ++ ':' :: padded 2 (second % 60)

/-- The years that can be written. -/
def isWritableYear (year : Int) : Bool := -262143 ≤ year && year ≤ 262142

/-- The text of an instant, if its year can be written. -/
def dateText? (time : Instant) : Option String :=
  let day := time.dayNumber
  let date := CivilDate.ofDayNumber day
  if isWritableYear date.year then
    some <| String.ofList <|
      (weekdayName (.ofDayNumber day)).toList ++ [',', ' '] ++ padded 2 date.day ++ [' '] ++
        (monthName date.month).toList ++ [' '] ++ yearText date.year ++ [' '] ++
        clockText time.secondOfDay ++ [' ', 'G', 'M', 'T']
  else none

/-- The start of 1970 as it is written, a moment in the past for every client. -/
def epochText : String := "Thu, 01 Jan 1970 00:00:00 GMT"

theorem dateText?_epoch : dateText? .epoch = some epochText := by decide +kernel

end DeferredResponse.Http
