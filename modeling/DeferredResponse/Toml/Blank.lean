/-!
# Blanks, comments and line ends

What may stand between the parts of a document. Every function takes the text that is left and
answers what is left after it.
-/

namespace DeferredResponse.Toml

def isBlank (c : Char) : Bool := c = ' ' || c = '\t'

/-- A character that may stand in a comment: a tab, or no ASCII control character. -/
def isCommentChar (c : Char) : Bool := c = '\t' || (0x20 ≤ c.toNat && c.toNat ≠ 0x7f)

def skipBlanks (s : List Char) : List Char := s.dropWhile isBlank

/-- Takes a line feed, alone or after a carriage return. -/
def newline? : List Char → Option (List Char)
  | '\n' :: rest => some rest
  | '\r' :: '\n' :: rest => some rest
  | _ => none

/-- Skips a comment up to its end of line. -/
def skipComment : List Char → List Char
  | '#' :: rest => rest.dropWhile isCommentChar
  | s => s

/-- Takes the blanks and the comment that end a line, and the end of the line or of the text. -/
def lineEnd? (s : List Char) : Option (List Char) :=
  match skipComment (skipBlanks s) with
  | [] => some []
  | rest => newline? rest

/-- Skips blanks, line ends and comments; `inComment` tells that a comment has begun. -/
def skipLayout (inComment : Bool) : List Char → List Char
  | [] => []
  | c :: rest =>
    if inComment && isCommentChar c then skipLayout true rest
    else if c = '\n' || (c = '\r' && rest.head? = some '\n') then skipLayout false rest
    else if !inComment && isBlank c then skipLayout false rest
    else if !inComment && c = '#' then skipLayout true rest
    else c :: rest

def expect? (c : Char) : List Char → Option (List Char)
  | d :: rest => if d = c then some rest else none
  | [] => none

end DeferredResponse.Toml
