import DeferredResponse.Calendar
import DeferredResponse.Instant

/-!
# Events

What a run tells of itself while it works, one line for each event.
-/

namespace DeferredResponse.Cli

open Text (padded)

/-- How serious an event is. -/
inductive Level where
  | info
  | warn
  deriving DecidableEq, Repr

def Level.name : Level → String
  | info => "INFO"
  | warn => "WARN"

/-- Something worth telling about a run. -/
structure Event where
  level : Level
  text : String
  deriving DecidableEq, Repr

/-- The line that tells of an event, without its time. -/
def Event.line (event : Event) : String := event.level.name ++ " replaybuf_demo: " ++ event.text

/-- The text of a moment, with microseconds. -/
def timestamp (time : Instant) : String :=
  let date := CivilDate.ofDayNumber time.dayNumber
  let second := time.secondOfDay
  String.ofList <|
    padded 4 date.year.toNat ++ '-' :: padded 2 date.month ++ '-' :: padded 2 date.day ++
      'T' :: padded 2 (second / 3600) ++ ':' :: padded 2 (second / 60 % 60) ++
      ':' :: padded 2 (second % 60) ++ '.' :: padded 6 (time.nanos / 1000) ++ ['Z']

/-- The line that tells of an event at a moment. -/
def Event.stampedLine (event : Event) (time : Instant) : String :=
  timestamp time ++ "  " ++ event.line

end DeferredResponse.Cli
