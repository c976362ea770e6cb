import DeferredResponse.Text.Extending
import DeferredResponse.Text.Invisible

/-!
# Quoted text

Text between double quotes, for error messages. A character that would not show as itself is written
as an escape: a few by a letter, the others by their code point. So a quoted text holds no control
character.
-/

namespace DeferredResponse.Text

/-- Whether a code point lies in one of the ranges. -/
def inRanges (ranges : List (Nat × Nat)) (code : Nat) : Bool :=
  ranges.any fun (first, last) => first ≤ code && code ≤ last

/-- The control characters below U+00A0. -/
def isControl (c : Char) : Bool := c.toNat < 0x20 || (0x7f ≤ c.toNat && c.toNat < 0xa0)

/-- Whether a character shows as itself wherever it stands. -/
def isVisible (c : Char) : Bool :=
  !isControl c && (c.toNat < 0xa0 ||
    (!inRanges invisibleRanges c.toNat && !inRanges extendingRanges c.toNat))

/-- The code point of a character in lower-case hexadecimal digits between braces. -/
def codePointEscape (c : Char) : List Char :=
  ['\\', 'u', '\x7b'] ++ Nat.toDigits 16 c.toNat ++ ['\x7d']

/-- The written form of a character. -/
def quoteChar (c : Char) : List Char :=
  if c = '\x00' then ['\\', '0']
  else if c = '\t' then ['\\', 't']
  else if c = '\r' then ['\\', 'r']
  else if c = '\n' then ['\\', 'n']
  else if c = '\\' then ['\\', '\\']
  else if c = '"' then ['\\', '"']
  else if isVisible c then [c]
  else codePointEscape c

/-- A text between double quotes, with escapes. -/
def quote (text : String) : String :=
  String.ofList ('"' :: text.toList.flatMap quoteChar ++ ['"'])

end DeferredResponse.Text
