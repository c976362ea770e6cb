import DeferredResponse.Body

/-!
# Texts of broken bytes

The text of bytes that are meant as UTF-8. Bytes from which no character can be read are not left
out: as many of them as could be the start of one character, but one at least, become a replacement
character.
-/

namespace DeferredResponse.Text

/-- The bytes that can follow the first byte of a character, as the lowest and the highest at each
place. Nothing follows a byte that is a character by itself or starts none. -/
def followRanges (first : UInt8) : List (UInt8 × UInt8) :=
  if first < 0xc2 then []
  else if first < 0xe0 then [(0x80, 0xbf)]
  else if first = 0xe0 then [(0xa0, 0xbf), (0x80, 0xbf)]
  else if first = 0xed then [(0x80, 0x9f), (0x80, 0xbf)]
  else if first < 0xf0 then [(0x80, 0xbf), (0x80, 0xbf)]
  else if first = 0xf0 then [(0x90, 0xbf), (0x80, 0xbf), (0x80, 0xbf)]
  else if first < 0xf4 then [(0x80, 0xbf), (0x80, 0xbf), (0x80, 0xbf)]
  else if first = 0xf4 then [(0x80, 0x8f), (0x80, 0xbf), (0x80, 0xbf)]
  else []

/-- How many of the bytes lie in the ranges at their places, up to the first that does not. -/
def countWithin : List (UInt8 × UInt8) → Bytes → Nat
  | (low, high) :: ranges, byte :: rest =>
    if low ≤ byte ∧ byte ≤ high then countWithin ranges rest + 1 else 0
  | _, _ => 0

/-- The character at the front of some bytes; none has more than four bytes. -/
def firstChar? (bytes : Bytes) : Option Char := (bytes.take 4).toByteArray.utf8DecodeChar? 0

/-- The characters of some bytes, the first `used` of which belong to a character before them. -/
def lossyFrom : Nat → Bytes → List Char
  | _, [] => []
  | used + 1, _ :: rest => lossyFrom used rest
  | 0, first :: rest =>
    match firstChar? (first :: rest) with
    | some c => c :: lossyFrom (c.utf8Size - 1) rest
    | none => '\ufffd' :: lossyFrom (countWithin (followRanges first) rest) rest

/-- The text of some bytes, with replacement characters where they are broken. -/
def lossyText (bytes : Bytes) : String := String.ofList (lossyFrom 0 bytes)

theorem lossyFrom_length_append (used rest : Bytes) :
    lossyFrom used.length (used ++ rest) = lossyFrom 0 rest := by
  induction used with
  | nil => rfl
  | cons _ used ih => exact ih

theorem firstChar?_encode_append (c : Char) (rest : Bytes) :
    firstChar? (String.utf8EncodeChar c ++ rest) = some c := by
  have hlength : (String.utf8EncodeChar c).length ≤ 4 := by
    rw [String.length_utf8EncodeChar]
    exact c.utf8Size_le_four
  rw [firstChar?, List.take_append, List.take_of_length_le hlength, List.toByteArray_append]
  exact ByteArray.utf8DecodeChar?_utf8EncodeChar_append

/-- The bytes of a character are read as this character, whatever stands behind them. -/
theorem lossyFrom_encode_append (c : Char) (rest : Bytes) :
    lossyFrom 0 (String.utf8EncodeChar c ++ rest) = c :: lossyFrom 0 rest := by
  have hfirst := firstChar?_encode_append c rest
  cases hbytes : String.utf8EncodeChar c with
  | nil =>
    have hlength := String.length_utf8EncodeChar c
    rw [hbytes] at hlength
    exact absurd hlength.symm (Nat.ne_of_gt c.utf8Size_pos)
  | cons first others =>
    have hlength : others.length = c.utf8Size - 1 := by
      rw [← String.length_utf8EncodeChar, hbytes]
      rfl
    rw [hbytes, List.cons_append] at hfirst
    rw [List.cons_append, lossyFrom, hfirst]
    show c :: lossyFrom (c.utf8Size - 1) (others ++ rest) = _
    rw [← hlength, lossyFrom_length_append]

/-- The bytes of a text give this text. -/
@[simp]
theorem lossyText_utf8 (text : String) : lossyText (utf8 text) = text := by
  have hchars : ∀ chars : List Char, lossyFrom 0 (chars.flatMap String.utf8EncodeChar) = chars := by
    intro chars
    induction chars with
    | nil => rfl
    | cons c rest ih => rw [List.flatMap_cons, lossyFrom_encode_append, ih]
  rw [lossyText, utf8_eq_flatMap, hchars, String.ofList_toList]

/-- A character that breaks off, a byte that starts none, and half of a surrogate pair. -/
example : lossyText [0x61, 0xe2, 0x82, 0x62, 0xff, 0xed, 0xa0] = "a\ufffdb\ufffd\ufffd\ufffd" := by
  decide +kernel

end DeferredResponse.Text
