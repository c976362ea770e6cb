import DeferredResponse.Calendar
import DeferredResponse.Decimal.Binary
import DeferredResponse.Toml.Quoted
import DeferredResponse.Toml.Value

/-!
# Bare values

Numbers, truth values and times are written without quotes. Such a value reaches as far as its
characters do, and what it is follows from its whole text.
-/

namespace DeferredResponse.Toml

/-! ## Numbers -/

/-- Digits between which single underscores may stand, without the underscores. -/
def ungroup? (isDigit : Char → Bool) : List Char → Option (List Char)
  | [] => none
  | [c] => if isDigit c then some [c] else none
  | c :: '_' :: rest => if isDigit c then (ungroup? isDigit rest).map (c :: ·) else none
  | c :: rest => if isDigit c then (ungroup? isDigit rest).map (c :: ·) else none

/-- Splits off a sign; tells whether it is a minus. -/
def splitSign : List Char → Bool × List Char
  | '-' :: rest => (true, rest)
  | '+' :: rest => (false, rest)
  | s => (false, s)

/-- The digits of a decimal number, which has no leading zero. -/
def decimalDigits? (s : List Char) : Option (List Char) :=
  if s.head? = some '0' && s ≠ ['0'] then none else ungroup? Char.isDigit s

/-- One more than the greatest integer that fits into 64 bits with a sign. -/
def wordBound : Nat := 9223372036854775808

/-- Whether an integer fits into 64 bits with a sign. -/
def isWord (n : Int) : Bool := -(wordBound : Int) ≤ n && n < wordBound

/-- An integer that fits into 64 bits with a sign. -/
def word? (n : Int) : Option Int := if isWord n then some n else none

/-- Reads a decimal integer with an optional sign. -/
def decimalInteger? (s : List Char) : Option Int :=
  let (negative, rest) := splitSign s
  match decimalDigits? rest with
  | some digits =>
    let number : Int := numberOf 10 digits
    word? (if negative then -number else number)
  | none => none

def isOctalDigit (c : Char) : Bool := '0' ≤ c && c ≤ '7'

def isBinaryDigit (c : Char) : Bool := c = '0' || c = '1'

/-- Reads the digits of an integer in another base. -/
def baseInteger? (base : Nat) (isDigit : Char → Bool) (s : List Char) : Option Int :=
  match ungroup? isDigit s with
  | some digits => word? (numberOf base digits)
  | none => none

def integer? : List Char → Option Int
  | '0' :: 'x' :: rest => baseInteger? 16 isHexDigit rest
  | '0' :: 'o' :: rest => baseInteger? 8 isOctalDigit rest
  | '0' :: 'b' :: rest => baseInteger? 2 isBinaryDigit rest
  | s => decimalInteger? s

/-- A digit, or an underscore between digits. -/
def isGroupChar (c : Char) : Bool := c.isDigit || c = '_'

/-- Reads the exponent of a floating-point number. -/
def exponent? : List Char → Option Int
  | [] => none
  | c :: rest =>
    if c = 'e' || c = 'E' then
      let (negative, rest) := splitSign rest
      (ungroup? Char.isDigit rest).map fun digits =>
        if negative then -(numberOf 10 digits : Int) else numberOf 10 digits
    else none

/-- The digits of a floating-point number, and the power of ten of the last one. -/
def floatParts? (s : List Char) : Option (List Char × Int) := do
  let whole ← decimalDigits? (s.takeWhile isGroupChar)
  match s.dropWhile isGroupChar with
  | '.' :: rest =>
    let fraction ← ungroup? Char.isDigit (rest.takeWhile isGroupChar)
    let exponent ← match rest.dropWhile isGroupChar with
      | [] => some 0
      | rest => exponent? rest
    return (whole ++ fraction, exponent - fraction.length)
  | rest => return (whole, ← exponent? rest)

/-- Reads a floating-point number. A number too great for the format is no number, but one too far
below zero is infinite. -/
def float? (s : List Char) : Option Decimal.Binary :=
  let (negative, rest) := splitSign s
  if rest = ['i', 'n', 'f'] then some (.infinite negative)
  else if rest = ['n', 'a', 'n'] then some .undefined
  else
    match floatParts? rest with
    | some (digits, exponent) =>
      let number := Decimal.Binary.ofDecimal negative (numberOf 10 digits) exponent
      if number = .infinite false then none else some number
    | none => none

/-! ## Times -/

/-- Reads a number of exactly so many digits. -/
def fixedNumber? (length : Nat) (s : List Char) : Option (Nat × List Char) :=
  let digits := s.take length
  if digits.length = length && digits.all Char.isDigit then some (numberOf 10 digits, s.drop length)
  else none

/-- Takes a date that exists. -/
def date? (s : List Char) : Option (List Char) := do
  let (year, s) ← fixedNumber? 4 s
  let (month, s) ← fixedNumber? 2 (← expect? '-' s)
  let (day, s) ← fixedNumber? 2 (← expect? '-' s)
  if CivilDate.IsValid { year, month, day } then return s else none

/-- Takes hours and minutes that exist. -/
def hourMinute? (s : List Char) : Option (List Char) := do
  let (hour, s) ← fixedNumber? 2 s
  let (minute, s) ← fixedNumber? 2 (← expect? ':' s)
  if hour < 24 ∧ minute < 60 then return s else none

/-- Takes a time of day; the second may be a leap second and may have a fraction. -/
def time? (s : List Char) : Option (List Char) := do
  let (second, s) ← fixedNumber? 2 (← expect? ':' (← hourMinute? s))
  if second ≤ 60 then
    match s with
    | '.' :: c :: rest => if c.isDigit then return rest.dropWhile Char.isDigit else none
    | _ => return s
  else none

def offset? : List Char → Option (List Char)
  | 'Z' :: rest | 'z' :: rest => some rest
  | '+' :: rest | '-' :: rest => hourMinute? rest
  | _ => none

/-- Whether a text is a date, a time of day, or a date and a time with or without an offset. -/
def isDatetime (s : List Char) : Bool :=
  time? s = some [] ||
    match date? s with
    | none => false
    | some [] => true
    | some (separator :: rest) =>
      ['T', 't', ' '].contains separator &&
        match time? rest with
        | none => false
        | some rest => rest = [] || offset? rest = some []

/-! ## The text of a bare value -/

/-- A character of a bare value. -/
def isBareChar (c : Char) : Bool :=
  c.isAlphanum || c = '+' || c = '-' || c = '_' || c = '.' || c = ':'

/-- Splits off the text of a bare value. A time may follow a date after one space. -/
def spanBare (s : List Char) : List Char × List Char :=
  let word := s.takeWhile isBareChar
  match s.dropWhile isBareChar with
  | ' ' :: c :: rest =>
    if c.isDigit && date? word = some [] then
      (word ++ ' ' :: (c :: rest).takeWhile isBareChar, (c :: rest).dropWhile isBareChar)
    else (word, ' ' :: c :: rest)
  | rest => (word, rest)

/-- The value that a text stands for. -/
def bareValue? (s : List Char) : Option Value :=
  if s = ['t', 'r', 'u', 'e'] then some (.boolean true)
  else if s = ['f', 'a', 'l', 's', 'e'] then some (.boolean false)
  else
    match integer? s with
    | some number => some (.integer number)
    | none =>
      match float? s with
      | some number => some (.float number)
      | none => if isDatetime s then some (.datetime (String.ofList s)) else none

/-- Reads a bare value. -/
def scalar? (s : List Char) : Option (Value × List Char) :=
  let (word, rest) := spanBare s
  (bareValue? word).map (·, rest)

end DeferredResponse.Toml
