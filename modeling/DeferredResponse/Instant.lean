/-!
# Instants

Points on the UTC time line with nanosecond precision, and the columns of digits in which their
parts are written.
-/

namespace DeferredResponse

/-- The point `seconds + nanos / 1000000000` seconds after 1970-01-01T00:00:00 UTC. -/
structure Instant where
  /-- Whole seconds, rounded towards the past. -/
  seconds : Int
  /-- The nanoseconds after the whole second. -/
  nanos : Nat
  nanos_lt : nanos < 1000000000 := by decide
  deriving DecidableEq, Repr

namespace Instant

def epoch : Instant := { seconds := 0, nanos := 0 }

/-- The instant that lies a number of nanoseconds after the start of 1970. -/
def ofNanoseconds (n : Int) : Instant :=
  { seconds := n / 1000000000, nanos := (n % 1000000000).toNat, nanos_lt := by omega }

/-- The number of the day in which an instant lies, counted from 1970-01-01. -/
def dayNumber (t : Instant) : Int := t.seconds / 86400

def secondOfDay (t : Instant) : Nat := (t.seconds % 86400).toNat

/-- The instant that lies a number of whole seconds later. -/
def addSeconds (t : Instant) (n : Int) : Instant := { t with seconds := t.seconds + n }

end Instant

namespace Text

/-- The decimal digits of a number, filled up with zeros to a width. -/
def padded (width n : Nat) : List Char := (Nat.toDigits 10 n).leftpad width '0'

end Text

end DeferredResponse
