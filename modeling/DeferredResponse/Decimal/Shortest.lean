import DeferredResponse.Decimal.Binary

/-!
# Shortest decimals

The decimal with the fewest digits among those that are nearer to a given binary number than to any
other, and of several with that length the nearest. It is found by trying, for one digit, two
digits, and so on, the two neighbours of the number among the decimals of that length.
-/

namespace DeferredResponse.Decimal

/-- The value `digits * 10 ^ exponent`. -/
structure Positive where
  digits : Nat
  exponent : Int
  deriving DecidableEq, Repr

/-- Whether `digits * 10 ^ exponent` lies between `low` and `high` quarters of `2 ^ e`; the ends
belong to the interval if `closed`. -/
def isWithin (closed : Bool) (low high : Nat) (e : Int) (candidate : Positive) : Bool :=
  let (num, den) := scale 10 candidate.exponent (4 * candidate.digits) 1
  let (num, den) := scale 2 (-e) num den
  if closed then low * den ≤ num && num ≤ high * den else low * den < num && num < high * den

/-- The distance between `digits * 10 ^ exponent` and `significand * 2 ^ e`, as the numerator of a
fraction whose denominator depends on the exponents alone. -/
def distance (significand : Nat) (e : Int) (candidate : Positive) : Nat :=
  let (num, den) := scale 10 candidate.exponent candidate.digits 1
  let (num, den) := scale 2 (-e) num den
  max num (significand * den) - min num (significand * den)

/-- The quotient `significand * 2 ^ e / 10 ^ exponent`, rounded down. -/
def floorAt (significand : Nat) (e exponent : Int) : Nat :=
  let (num, den) := scale 2 e significand 1
  let (num, den) := scale 10 (-exponent) num den
  num / den

/-- The decimal exponent of the unit just above the leading digit of a positive number. -/
def leadingExponent (significand : Nat) (e : Int) : Int :=
  let (num, den) := scale 2 e significand 1
  let guess : Int := (Nat.toDigits 10 num).length - (Nat.toDigits 10 den).length
  if floorAt significand e guess = 0 then guess else guess + 1

/-- The first of the lengths `length`, `length + 1`, …, at most `tries` of them, at which a decimal
lies in the interval; of two the nearer, and of two equally near ones the greater. -/
def shortestFrom (significand low high : Nat) (e : Int) (length : Nat) : Nat → Option Positive
  | 0 => none
  | tries + 1 =>
    let exponent := leadingExponent significand e - length
    let below : Positive := ⟨floorAt significand e exponent, exponent⟩
    let above : Positive :=
      if below.digits + 1 = Nat.pow 10 length then ⟨1, exponent + length⟩
      else ⟨below.digits + 1, exponent⟩
    let isIn := isWithin (significand % 2 = 0) low high e
    match isIn below, isIn above with
    | true, true =>
      if distance significand e below < distance significand e above then some below else some above
    | true, false => some below
    | false, true => some above
    | false, false => shortestFrom significand low high e (length + 1) tries

/-- The shortest decimal that reads back as the positive number `significand * 2 ^ e`. Below a power
of two, numbers lie twice as close as above it. -/
def shortest (significand : Nat) (e : Int) : Positive :=
  let low := if significand = leastNormal && minExponent < e then 1 else 2
  let found := shortestFrom significand (4 * significand - low) (4 * significand + 2) e 1 17
  found.getD ⟨significand, 0⟩

/-- A positive decimal in positional notation, with at least one digit on both sides of the point.
-/
def Positive.positional (value : Positive) : List Char :=
  let digits := Nat.toDigits 10 value.digits
  if 0 ≤ value.exponent then digits ++ List.replicate value.exponent.toNat '0' ++ ['.', '0']
  else
    let places := (-value.exponent).toNat
    let padded := digits.leftpad (places + 1) '0'
    padded.take (padded.length - places) ++ '.' :: padded.drop (padded.length - places)

/-- The text of a binary number: its shortest decimal in positional notation. -/
def Binary.text : Binary → String
  | .undefined => "NaN"
  | .infinite negative => if negative then "-inf" else "inf"
  | .finite negative significand e =>
    let digits := if significand = 0 then ['0', '.', '0'] else (shortest significand e).positional
    String.ofList (if negative then '-' :: digits else digits)

end DeferredResponse.Decimal
