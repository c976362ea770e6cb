/-!
# Binary floating-point numbers

Numbers with a significand of 53 bits and exponents from -1074 to 971, as exact natural numbers, and
the one that is nearest to a decimal. A tie goes to the even significand; what would need a greater
exponent is infinite.
-/

namespace DeferredResponse.Decimal

inductive Binary where
  /-- The value `± significand * 2 ^ exponent`. -/
  | finite (negative : Bool) (significand : Nat) (exponent : Int)
  | infinite (negative : Bool)
  | undefined
  deriving DecidableEq, Repr

/-- The quotient rounded to the nearest integer, a tie to the even one. -/
def roundDivEven (num den : Nat) : Nat :=
  let quotient := num / den
  let twice := 2 * (num % den)
  if den < twice || (twice = den && quotient % 2 = 1) then quotient + 1 else quotient

/-- One more than the greatest significand; it has 53 bits. -/
def significandBound : Nat := 9007199254740992

/-- The least significand of a number whose exponent is not the least one. -/
def leastNormal : Nat := 4503599627370496

def minExponent : Int := -1074

def maxExponent : Int := 971

/-- `num * b ^ e / den`, as a fraction. -/
def scale (base : Nat) (e : Int) (num den : Nat) : Nat × Nat :=
  if 0 ≤ e then (num * Nat.pow base e.toNat, den) else (num, den * Nat.pow base (-e).toNat)

/-- The exponent at which a positive fraction has a significand of full precision, or the least one.
-/
def exponentOf (num den : Nat) : Int :=
  let guess : Int := (num.log2 : Int) - (den.log2 : Int) - leastNormal.log2
  let (n, d) := scale 2 (-guess) num den
  let exponent := if n / d < leastNormal then guess - 1 else guess
  max exponent minExponent

namespace Binary

/-- The number nearest to a positive fraction. -/
def ofFraction (negative : Bool) (num den : Nat) : Binary :=
  let exponent := exponentOf num den
  let (n, d) := scale 2 (-exponent) num den
  let rounded := roundDivEven n d
  let (significand, exponent) :=
    if rounded = significandBound then (leastNormal, exponent + 1) else (rounded, exponent)
  if maxExponent < exponent then infinite negative else finite negative significand exponent

/-- The number nearest to `± digits * 10 ^ exponent`. Values above `10 ^ 400` and below `10 ^ -400`
are told by their size alone. -/
def ofDecimal (negative : Bool) (digits : Nat) (exponent : Int) : Binary :=
  let size : Int := (Nat.toDigits 10 digits).length + exponent
  if digits = 0 || size < -400 then finite negative 0 0
  else if 400 < size then infinite negative
  else
    let (num, den) := scale 10 exponent digits 1
    ofFraction negative num den

end Binary

end DeferredResponse.Decimal
