import DeferredResponse.Toml.Blank

/-!
# Quoted strings

The four forms of strings: basic ones with escapes and literal ones without, each on one line or on
several. Readers start behind the opening quotes and answer the text with what is left behind the
closing ones.
-/

namespace DeferredResponse.Toml

def isHexDigit (c : Char) : Bool :=
  c.isDigit || ('a' ≤ c && c ≤ 'f') || ('A' ≤ c && c ≤ 'F')

def hexValue (c : Char) : Nat :=
  if c.isDigit then c.toNat - '0'.toNat
  else if 'a' ≤ c then c.toNat - 'a'.toNat + 10
  else c.toNat - 'A'.toNat + 10

/-- The number that digits spell in a base. -/
def numberOf (base : Nat) (digits : List Char) : Nat :=
  digits.foldl (fun n c => base * n + hexValue c) 0

/-- The character of a code point, if it is one. -/
def ofCodePoint? (code : Nat) : Option Char :=
  if code.isValidChar then some (Char.ofNat code) else none

/-- Reads the digits of an escape of the given length. -/
def codePoint? (length : Nat) (s : List Char) : Option (Char × List Char) :=
  let digits := s.take length
  if digits.length = length && digits.all isHexDigit then
    (ofCodePoint? (numberOf 16 digits)).map (·, s.drop length)
  else none

/-- Reads the part of an escape that follows the backslash. -/
def escape? : List Char → Option (Char × List Char)
  | 'b' :: rest => some ('\x08', rest)
  | 'f' :: rest => some ('\x0c', rest)
  | 'n' :: rest => some ('\n', rest)
  | 'r' :: rest => some ('\r', rest)
  | 't' :: rest => some ('\t', rest)
  | '"' :: rest => some ('"', rest)
  | '\\' :: rest => some ('\\', rest)
  | 'u' :: rest => codePoint? 4 rest
  | 'U' :: rest => codePoint? 8 rest
  | _ => none

/-- A text read so far, before the rest of a reading. -/
def andThen (c : Char) (read : Option (List Char × List Char)) : Option (List Char × List Char) :=
  read.map fun (text, rest) => (c :: text, rest)

/-- Reads a basic string; `fuel` bounds the number of its characters. -/
def basic? : Nat → List Char → Option (List Char × List Char)
  | _, '"' :: rest => some ([], rest)
  | fuel + 1, '\\' :: rest =>
    match escape? rest with
    | some (c, rest) => andThen c (basic? fuel rest)
    | none => none
  | fuel + 1, c :: rest => if isCommentChar c then andThen c (basic? fuel rest) else none
  | _, _ => none

def literal? : List Char → Option (List Char × List Char)
  | '\'' :: rest => some ([], rest)
  | c :: rest => if isCommentChar c then andThen c (literal? rest) else none
  | [] => none

/-- Skips the line end that may follow the opening quotes of a string on several lines. -/
def skipNewline (s : List Char) : List Char := (newline? s).getD s

def skipWhite : List Char → List Char
  | [] => []
  | c :: rest =>
    if isBlank c || c = '\n' || (c = '\r' && rest.head? = some '\n') then skipWhite rest
    else c :: rest

/-- Skips a line end with the blanks around it and the empty lines after it, where a backslash asks
for it. -/
def foldedLine? (s : List Char) : Option (List Char) := (newline? (skipBlanks s)).map skipWhite

/-- Reads the quotes at which a string on several lines may end: one or two belong to the text,
three to five close it behind those that are over. Answers the quotes of the text, and whether it
goes on. -/
def closing? (quote : Char) (s : List Char) : Option (List Char × Bool × List Char) :=
  let count := (s.takeWhile (· = quote)).length
  let rest := s.dropWhile (· = quote)
  if count < 3 then some (List.replicate count quote, true, rest)
  else if count < 6 then some (List.replicate (count - 3) quote, false, rest)
  else none

/-- Reads a basic string on several lines; `fuel` bounds the number of its characters. -/
def basicLines? : Nat → List Char → Option (List Char × List Char)
  | 0, _ | _, [] => none
  | fuel + 1, c :: rest =>
    if c = '"' then
      match closing? '"' (c :: rest) with
      | some (quotes, true, rest) =>
        (basicLines? fuel rest).map fun (text, rest) => (quotes ++ text, rest)
      | some (quotes, false, rest) => some (quotes, rest)
      | none => none
    else if c = '\\' then
      match foldedLine? rest with
      | some rest => basicLines? fuel rest
      | none =>
        match escape? rest with
        | some (c, rest) => andThen c (basicLines? fuel rest)
        | none => none
    else if isCommentChar c then andThen c (basicLines? fuel rest)
    else
      match newline? (c :: rest) with
      | some rest => andThen '\n' (basicLines? fuel rest)
      | none => none

/-- Reads a literal string on several lines; `fuel` bounds the number of its characters. -/
def literalLines? : Nat → List Char → Option (List Char × List Char)
  | 0, _ | _, [] => none
  | fuel + 1, c :: rest =>
    if c = '\'' then
      match closing? '\'' (c :: rest) with
      | some (quotes, true, rest) =>
        (literalLines? fuel rest).map fun (text, rest) => (quotes ++ text, rest)
      | some (quotes, false, rest) => some (quotes, rest)
      | none => none
    else if isCommentChar c then andThen c (literalLines? fuel rest)
    else
      match newline? (c :: rest) with
      | some rest => andThen '\n' (literalLines? fuel rest)
      | none => none

/-- Reads a string of any form; none if the text does not start with a quote. -/
def quoted? : List Char → Option (String × List Char)
  | '"' :: '"' :: '"' :: rest => do
    let (text, rest) ← basicLines? rest.length (skipNewline rest)
    return (String.ofList text, rest)
  | '\'' :: '\'' :: '\'' :: rest => do
    let (text, rest) ← literalLines? rest.length (skipNewline rest)
    return (String.ofList text, rest)
  | '"' :: rest => do
    let (text, rest) ← basic? rest.length rest
    return (String.ofList text, rest)
  | '\'' :: rest => do
    let (text, rest) ← literal? rest
    return (String.ofList text, rest)
  | _ => none

end DeferredResponse.Toml
