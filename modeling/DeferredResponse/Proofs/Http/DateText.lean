import DeferredResponse.Calendar.Lemmas
import DeferredResponse.Proofs.Http.Sendable
import Mathlib.Algebra.Group.Nat.Defs

/-!
# Dates read back

The text of a date header has the form `Www, DD Mon Y HH:MM:SS GMT`. It says a date of the calendar
and a time of the clock, and these are the second of the instant for which it was written.

1. The words of a date text are found at its spaces and colons (`DateWords.ofText?_text`).
2. Words say one stamp only (`DateWords.Spells.stamp_eq`).
3. What is written for an instant says its stamp (`spells_wordsOf`), which exists
   (`Stamp.isValid_ofInstant`) and gives back the second (`Stamp.seconds_ofInstant`).
4. The years that can be written are a range of seconds (`isWritableYear_iff`), and the width of the
   year decides whether the text is an IMF-fixdate (`isImfFixdate_iff`, `length_utf8_text_iff`).
-/

namespace DeferredResponse

/-! ## Numerals -/

namespace Text

/-- A word of a given number of decimal digits. -/
def IsDigits (width : Nat) (word : List Char) : Prop :=
  word.length = width ∧ ∀ c ∈ word, c.isDigit = true

/-- A number in a given number of decimal digits. -/
structure IsNumeral (width n : Nat) (word : List Char) : Prop where
  isDigits : IsDigits width word
  value_eq : Nat.ofDigitChars 10 word 0 = n

theorem isNumeral_padded (width n : Nat) :
    IsNumeral (max width (Nat.toDigits 10 n).length) n (padded width n) where
  isDigits := by
    refine ⟨List.length_leftpad, fun c hc => ?_⟩
    rcases List.mem_append.mp hc with hzero | hdigit
    · rw [List.eq_of_mem_replicate hzero]
      rfl
    · exact Nat.isDigit_of_mem_toDigits (by decide) (by decide) hdigit
  value_eq := by
    rw [padded, List.leftpad, Nat.ofDigitChars_append, Nat.ofDigitChars_replicate_zero,
      Nat.mul_zero, Nat.ofDigitChars_ten_toDigits]

/-- A number below a power of ten fits into the column. -/
theorem isNumeral_padded_of_lt {width n : Nat} (hwidth : 0 < width) (h : n < 10 ^ width) :
    IsNumeral width n (padded width n) := by
  have hlength := (Nat.length_toDigits_le_iff (by decide) hwidth).mpr h
  have hnumeral := isNumeral_padded width n
  rwa [Nat.max_eq_left hlength] at hnumeral

end Text

namespace Http

open Text

/-! ## Stamps -/

/-- A date and a time of day. -/
structure Stamp where
  date : CivilDate
  hour : Nat
  minute : Nat
  second : Nat
  deriving DecidableEq, Repr

namespace Stamp

/-- The date is on the calendar and the time on the clock. -/
structure IsValid (stamp : Stamp) : Prop where
  date : stamp.date.IsValid
  hour_lt : stamp.hour < 24
  minute_lt : stamp.minute < 60
  second_lt : stamp.second < 60

/-- The seconds from the start of 1970 to a stamp. -/
def seconds (stamp : Stamp) : Int :=
  stamp.date.dayNumber * 86400 + (3600 * stamp.hour + 60 * stamp.minute + stamp.second : Nat)

/-- The date and the time of day at which an instant lies. -/
def ofInstant (time : Instant) : Stamp where
  date := .ofDayNumber time.dayNumber
  hour := time.secondOfDay / 3600
  minute := time.secondOfDay / 60 % 60
  second := time.secondOfDay % 60

theorem isValid_ofInstant (time : Instant) : (ofInstant time).IsValid where
  date := CivilDate.isValid_ofDayNumber time.dayNumber
  hour_lt := by
    simp only [ofInstant, Instant.secondOfDay]
    omega
  minute_lt := Nat.mod_lt _ (by decide)
  second_lt := Nat.mod_lt _ (by decide)

theorem seconds_ofInstant (time : Instant) : (ofInstant time).seconds = time.seconds := by
  simp only [seconds, ofInstant, CivilDate.dayNumber_ofDayNumber, Instant.dayNumber,
    Instant.secondOfDay]
  omega

/-- The first second that can be written. -/
def first : Stamp := { date := ⟨-262143, 1, 1⟩, hour := 0, minute := 0, second := 0 }

/-- The last second that can be written. -/
def last : Stamp := { date := ⟨262142, 12, 31⟩, hour := 23, minute := 59, second := 59 }

end Stamp

/-- An instant lies between the first and the last second that can be written. -/
def IsWritable (time : Instant) : Prop :=
  Stamp.first.seconds ≤ time.seconds ∧ time.seconds ≤ Stamp.last.seconds

instance : DecidablePred IsWritable := fun time => by unfold IsWritable; infer_instance

theorem isWritableYear_iff (time : Instant) :
    isWritableYear (CivilDate.ofDayNumber time.dayNumber).year = true ↔ IsWritable time := by
  have hvalid := CivilDate.isValid_ofDayNumber time.dayNumber
  have hfirst := CivilDate.le_year_iff hvalid (-262143)
  have hlast := CivilDate.le_year_iff hvalid 262143
  have hnext : CivilDate.dayNumber ⟨262143, 1, 1⟩ =
      CivilDate.dayNumber ⟨262142, 12, 31⟩ + 1 := by decide
  have hday : time.dayNumber = time.seconds / 86400 := rfl
  -- A year that can be written lies between two firsts of January, so its days do.
  rw [CivilDate.dayNumber_ofDayNumber] at hfirst hlast
  rw [isWritableYear, Bool.and_eq_true, decide_eq_true_eq, decide_eq_true_eq]
  simp only [IsWritable, Stamp.seconds, Stamp.first, Stamp.last]
  omega

/-! ## Words -/

/-- The names of the days from Thursday on. -/
def dayNames : List String := ["Thu", "Fri", "Sat", "Sun", "Mon", "Tue", "Wed"]

/-- The names of the months from January on. -/
def monthNames : List String :=
  ["Jan", "Feb", "Mar", "Apr", "May", "Jun", "Jul", "Aug", "Sep", "Oct", "Nov", "Dec"]

/-- The text of a year: four digits from 0 to 9999, else a sign and four digits or more. -/
inductive IsYearText (year : Int) : List Char → Prop where
  | plain {word : List Char} (hrange : 0 ≤ year ∧ year ≤ 9999)
      (hword : IsNumeral 4 year.toNat word) : IsYearText year word
  | signed {width : Nat} {digits : List Char} (hrange : ¬ (0 ≤ year ∧ year ≤ 9999))
      (hwidth : 4 ≤ width) (hdigits : IsNumeral width year.natAbs digits) :
      IsYearText year ((if year < 0 then '-' else '+') :: digits)

/-- The year that a word says. -/
def yearOfWord : List Char → Int
  | '-' :: digits => -Nat.ofDigitChars 10 digits 0
  | '+' :: digits => Nat.ofDigitChars 10 digits 0
  | digits => Nat.ofDigitChars 10 digits 0

theorem IsYearText.yearOfWord_eq {year : Int} {word : List Char} (h : IsYearText year word) :
    yearOfWord word = year := by
  cases h with
  | plain hrange hword =>
    have hvalue := hword.value_eq
    unfold yearOfWord
    split
    · exact absurd (hword.isDigits.2 '-' List.mem_cons_self) (by decide)
    · exact absurd (hword.isDigits.2 '+' List.mem_cons_self) (by decide)
    · omega
  | @signed width digits hrange hwidth hdigits =>
    have hvalue := hdigits.value_eq
    split_ifs with hnegative
    · show -(Nat.ofDigitChars 10 digits 0 : Int) = year
      omega
    · show (Nat.ofDigitChars 10 digits 0 : Int) = year
      omega

/-- The words of a date header. -/
structure DateWords where
  weekday : List Char
  day : List Char
  month : List Char
  year : List Char
  hour : List Char
  minute : List Char
  second : List Char

namespace DateWords

/-- The words in the form `Www, DD Mon Y HH:MM:SS GMT`. -/
def text (words : DateWords) : String :=
  String.ofList <|
    words.weekday ++ ',' :: ' ' :: (words.day ++ ' ' :: (words.month ++ ' ' :: (words.year ++ ' ' ::
      (words.hour ++ ':' :: (words.minute ++ ':' :: (words.second ++ [' ', 'G', 'M', 'T']))))))

/-- The words but the year have the form that is the same in every date header. -/
structure IsFormal (words : DateWords) : Prop where
  weekday : String.ofList words.weekday ∈ dayNames
  day : IsDigits 2 words.day
  month : String.ofList words.month ∈ monthNames
  hour : IsDigits 2 words.hour
  minute : IsDigits 2 words.minute
  second : IsDigits 2 words.second

/-- The words say a stamp. The day of the week is counted from 1970-01-01, which was a Thursday. -/
structure Spells (words : DateWords) (stamp : Stamp) : Prop where
  weekday : dayNames[(stamp.date.dayNumber % 7).toNat]? = some (String.ofList words.weekday)
  day : IsNumeral 2 stamp.date.day words.day
  month : ∃ i, monthNames[i]? = some (String.ofList words.month) ∧ stamp.date.month = i + 1
  year : IsYearText stamp.date.year words.year
  hour : IsNumeral 2 stamp.hour words.hour
  minute : IsNumeral 2 stamp.minute words.minute
  second : IsNumeral 2 stamp.second words.second

/-- The stamp that words say. -/
def stamp (words : DateWords) : Stamp where
  date := {
    year := yearOfWord words.year
    month := monthNames.idxOf (String.ofList words.month) + 1
    day := Nat.ofDigitChars 10 words.day 0 }
  hour := Nat.ofDigitChars 10 words.hour 0
  minute := Nat.ofDigitChars 10 words.minute 0
  second := Nat.ofDigitChars 10 words.second 0

variable {words : DateWords} {stamp : Stamp}

theorem Spells.stamp_eq (h : words.Spells stamp) : words.stamp = stamp := by
  obtain ⟨i, hname, hmonth⟩ := h.month
  obtain ⟨hi, hname⟩ := List.getElem?_eq_some_iff.mp hname
  have hindex : monthNames.idxOf (String.ofList words.month) = i := by
    rw [← hname]
    exact List.Nodup.idxOf_getElem (by decide) i hi
  unfold DateWords.stamp
  rw [h.year.yearOfWord_eq, h.day.value_eq, h.hour.value_eq, h.minute.value_eq, h.second.value_eq,
    hindex, ← hmonth]

theorem Spells.isFormal (h : words.Spells stamp) : words.IsFormal where
  weekday := List.mem_of_getElem? h.weekday
  day := h.day.isDigits
  month := List.mem_of_getElem? h.month.choose_spec.1
  hour := h.hour.isDigits
  minute := h.minute.isDigits
  second := h.second.isDigits

/-! ## Characters of words -/

/-- The characters of words: letters, digits and signs. -/
def isWordChar (c : Char) : Bool := c.isAlphanum || c = '+' || c = '-'

/-- No word has one of the marks that stand between the words. -/
def IsPlain (words : DateWords) : Prop :=
  ∀ word ∈ [words.weekday, words.day, words.month, words.year, words.hour, words.minute,
    words.second], ∀ c ∈ word, isWordChar c = true

theorem isWordChar_of_isDigit {c : Char} (h : c.isDigit = true) : isWordChar c = true := by
  simp [isWordChar, Char.isAlphanum, h]

theorem isWordChar_of_isYearText {year : Int} {word : List Char} (h : IsYearText year word) :
    ∀ c ∈ word, isWordChar c = true := by
  intro c hc
  cases h with
  | plain hrange hword => exact isWordChar_of_isDigit (hword.isDigits.2 c hc)
  | signed hrange hwidth hdigits =>
    rcases List.mem_cons.mp hc with rfl | hc
    · split_ifs <;> decide
    · exact isWordChar_of_isDigit (hdigits.isDigits.2 c hc)

theorem IsFormal.isPlain (h : words.IsFormal) (hyear : ∀ c ∈ words.year, isWordChar c = true) :
    words.IsPlain := by
  have hname : ∀ word : List Char, String.ofList word ∈ dayNames ++ monthNames →
      ∀ c ∈ word, isWordChar c = true := by
    intro word hword c hc
    have hall : ∀ name ∈ dayNames ++ monthNames, name.toList.all isWordChar = true := by decide
    have hchars := hall _ hword
    rw [String.toList_ofList, List.all_eq_true] at hchars
    exact hchars c hc
  have hdigits : ∀ word : List Char, IsDigits 2 word → ∀ c ∈ word, isWordChar c = true :=
    fun word hword c hc => isWordChar_of_isDigit (hword.2 c hc)
  simp only [IsPlain, List.forall_mem_cons]
  exact ⟨hname _ (List.mem_append_left _ h.weekday), hdigits _ h.day,
    hname _ (List.mem_append_right _ h.month), hyear, hdigits _ h.hour, hdigits _ h.minute,
    hdigits _ h.second, by simp⟩

/-- The words of a text: those between its spaces, and those between the colons of the fifth. -/
def ofText? (text : String) : Option DateWords :=
  match text.toList.splitOn ' ' with
  | [weekday, day, month, year, clock, _] =>
    match clock.splitOn ':' with
    | [hour, minute, second] =>
      some { weekday := weekday.dropLast, day, month, year, hour, minute, second }
    | _ => none
  | _ => none

theorem ofText?_text (h : words.IsPlain) : ofText? words.text = some words := by
  have hmarks : ∀ word : List Char, (∀ c ∈ word, isWordChar c = true) → ' ' ∉ word ∧ ':' ∉ word :=
    fun word hword => ⟨fun hmem => absurd (hword _ hmem) (by decide),
      fun hmem => absurd (hword _ hmem) (by decide)⟩
  simp only [IsPlain, List.forall_mem_cons] at h
  obtain ⟨hweekday, hday, hmonth, hyear, hhour, hminute, hsecond, -⟩ := h
  -- Between spaces the clock is one word; its colons come second.
  have hclock : words.hour ++ ':' :: (words.minute ++ ':' ::
        (words.second ++ [' ', 'G', 'M', 'T'])) =
      (words.hour ++ ':' :: (words.minute ++ ':' :: words.second)) ++ ' ' :: ['G', 'M', 'T'] := by
    simp
  have hspaces : words.text.toList.splitOn ' ' =
      [words.weekday ++ [','], words.day, words.month, words.year,
        words.hour ++ ':' :: (words.minute ++ ':' :: words.second), ['G', 'M', 'T']] := by
    rw [text, String.toList_ofList, hclock, List.append_cons]
    rw [List.splitOn_append_cons_self_of_not_mem (by simp [hmarks _ hweekday]),
      List.splitOn_append_cons_self_of_not_mem (hmarks _ hday).1,
      List.splitOn_append_cons_self_of_not_mem (hmarks _ hmonth).1,
      List.splitOn_append_cons_self_of_not_mem (hmarks _ hyear).1,
      List.splitOn_append_cons_self_of_not_mem
        (by simp [hmarks _ hhour, hmarks _ hminute, hmarks _ hsecond]),
      List.splitOn_eq_singleton (by decide)]
  have hcolons : (words.hour ++ ':' :: (words.minute ++ ':' :: words.second)).splitOn ':' =
      [words.hour, words.minute, words.second] := by
    rw [List.splitOn_append_cons_self_of_not_mem (hmarks _ hhour).2,
      List.splitOn_append_cons_self_of_not_mem (hmarks _ hminute).2,
      List.splitOn_eq_singleton (hmarks _ hsecond).2]
  simp only [ofText?, hspaces, hcolons, List.dropLast_concat]

end DateWords

/-- The second that a date text says. -/
def secondsOfText? (text : String) : Option Int :=
  (DateWords.ofText? text).map fun words => words.stamp.seconds

/-! ## What is written -/

/-- The words that are written for an instant. -/
def wordsOf (time : Instant) : DateWords :=
  let day := time.dayNumber
  let date := CivilDate.ofDayNumber day
  { weekday := (weekdayName (.ofDayNumber day)).toList
    day := padded 2 date.day
    month := (monthName date.month).toList
    year := yearText date.year
    hour := padded 2 (time.secondOfDay / 3600)
    minute := padded 2 (time.secondOfDay / 60 % 60)
    second := padded 2 (time.secondOfDay % 60) }

theorem dateText?_eq (time : Instant) :
    dateText? time = if IsWritable time then some (wordsOf time).text else none := by
  have htext : (weekdayName (.ofDayNumber time.dayNumber)).toList ++ [',', ' '] ++
      padded 2 (CivilDate.ofDayNumber time.dayNumber).day ++ [' '] ++
        (monthName (CivilDate.ofDayNumber time.dayNumber).month).toList ++ [' '] ++
          yearText (CivilDate.ofDayNumber time.dayNumber).year ++ [' '] ++
            clockText time.secondOfDay ++ [' ', 'G', 'M', 'T'] = (wordsOf time).text.toList := by
    rw [DateWords.text, String.toList_ofList]
    simp [wordsOf, clockText]
  simp only [← isWritableYear_iff, dateText?, htext, String.ofList_toList]

theorem getElem?_dayNames (day : Int) :
    dayNames[(day % 7).toNat]? = some (weekdayName (.ofDayNumber day)) := by
  have hday : day % 7 = 0 ∨ day % 7 = 1 ∨ day % 7 = 2 ∨ day % 7 = 3 ∨ day % 7 = 4 ∨ day % 7 = 5 ∨
      day % 7 = 6 := by omega
  have hshift : (day + 4) % 7 = (day % 7 + 4) % 7 := by omega
  unfold Weekday.ofDayNumber
  rw [hshift]
  rcases hday with h | h | h | h | h | h | h <;> rw [h] <;> rfl

theorem getElem?_monthNames {month : Nat} (h : month < 12) :
    monthNames[month]? = some (monthName (month + 1)) := by
  have hall : ∀ month < 12, monthNames[month]? = some (monthName (month + 1)) := by decide
  exact hall month h

theorem isYearText_yearText (year : Int) : IsYearText year (yearText year) := by
  unfold yearText
  by_cases hrange : 0 ≤ year ∧ year ≤ 9999
  · rw [if_pos hrange]
    exact .plain hrange (isNumeral_padded_of_lt (by decide) (by omega))
  · rw [if_neg hrange]
    exact .signed hrange (Nat.le_max_left ..) (isNumeral_padded 4 year.natAbs)

theorem daysInMonth_le (year : Int) (month : Nat) : daysInMonth year month ≤ 31 := by
  have hleap : leapDays year ≤ 1 := by
    unfold leapDays
    split <;> decide
  unfold daysInMonth
  split <;> omega

/-- What is written for an instant says its date and its time of day. -/
theorem spells_wordsOf (time : Instant) : (wordsOf time).Spells (.ofInstant time) := by
  obtain ⟨hdate, hhour, hminute, hsecond⟩ := Stamp.isValid_ofInstant time
  obtain ⟨hmonth, hmonth', hday, hday'⟩ := hdate
  have hday'' := daysInMonth_le (Stamp.ofInstant time).date.year (Stamp.ofInstant time).date.month
  exact {
    weekday := by
      show dayNames[((CivilDate.ofDayNumber time.dayNumber).dayNumber % 7).toNat]? = _
      rw [CivilDate.dayNumber_ofDayNumber, getElem?_dayNames, wordsOf, String.ofList_toList]
    day := isNumeral_padded_of_lt (by decide) (by omega)
    month := by
      refine ⟨(Stamp.ofInstant time).date.month - 1, ?_, by omega⟩
      rw [getElem?_monthNames (by omega), Nat.sub_add_cancel hmonth, wordsOf, String.ofList_toList]
      rfl
    year := isYearText_yearText _
    hour := isNumeral_padded_of_lt (by decide) (by omega)
    minute := isNumeral_padded_of_lt (by decide) (by omega)
    second := isNumeral_padded_of_lt (by decide) (by omega) }

/-! ## Four digits of a year -/

theorem IsYearText.length_eq_four_iff {year : Int} {word : List Char} (h : IsYearText year word) :
    word.length = 4 ↔ 0 ≤ year ∧ year ≤ 9999 := by
  cases h with
  | plain hrange hword => exact iff_of_true hword.isDigits.1 hrange
  | signed hrange hwidth hdigits =>
    have hlength := hdigits.isDigits.1
    refine iff_of_false (fun hfour => ?_) hrange
    rw [List.length_cons] at hfour
    omega

theorem IsYearText.isDigits_iff {year : Int} {word : List Char} (h : IsYearText year word) :
    IsDigits 4 word ↔ 0 ≤ year ∧ year ≤ 9999 := by
  refine ⟨fun hdigits => h.length_eq_four_iff.mp hdigits.1, fun hrange => ?_⟩
  cases h with
  | plain _ hword => exact hword.isDigits
  | signed hsign => exact absurd hrange hsign

/-- The form of a date header whose year has four digits. -/
def IsImfFixdate (text : String) : Prop :=
  ∃ words : DateWords, text = words.text ∧ words.IsFormal ∧ IsDigits 4 words.year

namespace DateWords

variable {words : DateWords} {stamp : Stamp}

theorem Spells.isPlain (h : words.Spells stamp) : words.IsPlain :=
  h.isFormal.isPlain (isWordChar_of_isYearText h.year)

theorem isImfFixdate_iff (h : words.Spells stamp) :
    IsImfFixdate words.text ↔ 0 ≤ stamp.date.year ∧ stamp.date.year ≤ 9999 := by
  rw [← h.year.isDigits_iff]
  constructor
  · -- Other words with the same text are read from it alike, so they are these words.
    rintro ⟨others, htext, hformal, hyear⟩
    have hplain := hformal.isPlain fun c hc => isWordChar_of_isDigit (hyear.2 c hc)
    have hread := ofText?_text h.isPlain
    rw [htext, ofText?_text hplain, Option.some.injEq] at hread
    rwa [← hread]
  · exact fun hyear => ⟨words, rfl, h.isFormal, hyear⟩

theorem IsFormal.length_text (h : words.IsFormal) :
    words.text.toList.length = words.year.length + 25 := by
  have hname : ∀ word : List Char, String.ofList word ∈ dayNames ++ monthNames →
      word.length = 3 := by
    intro word hword
    have hall : ∀ name ∈ dayNames ++ monthNames, name.toList.length = 3 := by decide
    simpa using hall _ hword
  have hweekday := hname _ (List.mem_append_left _ h.weekday)
  have hmonth := hname _ (List.mem_append_right _ h.month)
  rw [text, String.toList_ofList]
  simp [hweekday, hmonth, h.day.1, h.hour.1, h.minute.1, h.second.1]
  omega

theorem ascii_of_isWordChar {c : Char} (h : isWordChar c = true) : c.toNat < 0x80 := by
  unfold isWordChar at h
  simp only [Bool.or_eq_true, decide_eq_true_eq] at h
  rcases h with (hletter | rfl) | rfl
  · have hrange := toNat_of_isAlphanum hletter
    omega
  · decide
  · decide

theorem IsPlain.ascii_text (h : words.IsPlain) : ∀ c ∈ words.text.toList, c.toNat < 0x80 := by
  have hword : ∀ word : List Char, (∀ c ∈ word, isWordChar c = true) → ∀ c ∈ word, c.toNat < 0x80 :=
    fun word hword c hc => ascii_of_isWordChar (hword c hc)
  simp only [IsPlain, List.forall_mem_cons] at h
  obtain ⟨hweekday, hday, hmonth, hyear, hhour, hminute, hsecond, -⟩ := h
  rw [text, String.toList_ofList]
  simp only [List.forall_mem_append, List.forall_mem_cons]
  exact ⟨hword _ hweekday, by decide, by decide, hword _ hday, by decide, hword _ hmonth, by decide,
    hword _ hyear, by decide, hword _ hhour, by decide, hword _ hminute, by decide,
    hword _ hsecond, by simp⟩

theorem length_utf8_text_iff (h : words.Spells stamp) :
    (utf8 words.text).length = 29 ↔ 0 ≤ stamp.date.year ∧ stamp.date.year ≤ 9999 := by
  rw [length_utf8_of_ascii h.isPlain.ascii_text, h.isFormal.length_text,
    ← h.year.length_eq_four_iff]
  omega

end DateWords

/-! ## Instants and their texts -/

/-- The words of a date header give an instant: they say a date and a time of day that exist and
whose second is that of the instant. The year decides whether their text is an IMF-fixdate, and
whether it is as long as one. -/
structure IsDateOf (time : Instant) (words : DateWords) (stamp : Stamp) : Prop where
  spells : words.Spells stamp
  isValid : stamp.IsValid
  seconds_eq : stamp.seconds = time.seconds
  read_eq : secondsOfText? words.text = some time.seconds
  isImfFixdate_iff : IsImfFixdate words.text ↔ 0 ≤ stamp.date.year ∧ stamp.date.year ≤ 9999
  length_iff : (utf8 words.text).length = 29 ↔ 0 ≤ stamp.date.year ∧ stamp.date.year ≤ 9999

theorem secondsOfText?_wordsOf (time : Instant) :
    secondsOfText? (wordsOf time).text = some time.seconds := by
  have hspells := spells_wordsOf time
  rw [secondsOfText?, DateWords.ofText?_text hspells.isPlain, Option.map_some, hspells.stamp_eq,
    Stamp.seconds_ofInstant]

theorem isDateOf_wordsOf (time : Instant) : IsDateOf time (wordsOf time) (.ofInstant time) where
  spells := spells_wordsOf time
  isValid := Stamp.isValid_ofInstant time
  seconds_eq := Stamp.seconds_ofInstant time
  read_eq := secondsOfText?_wordsOf time
  isImfFixdate_iff := DateWords.isImfFixdate_iff (spells_wordsOf time)
  length_iff := DateWords.length_utf8_text_iff (spells_wordsOf time)

/-- What is written for an instant depends on its whole second only. -/
theorem wordsOf_congr {first second : Instant} (h : first.seconds = second.seconds) :
    wordsOf first = wordsOf second := by
  unfold wordsOf Instant.secondOfDay Instant.dayNumber
  rw [h]

/-- **Dates are faithful.** From the first to the last second that can be written, the text of an
instant says a date of the calendar and a time of the clock that give back its whole second. So
instants have the same text if and only if they lie in the same second. No other instant has a
text. -/
theorem dateText_is_faithful :
    (∀ time, IsWritable time → ∃ words stamp,
      dateText? time = some words.text ∧ IsDateOf time words stamp) ∧
    (∀ first second, IsWritable first → IsWritable second →
      (dateText? first = dateText? second ↔ first.seconds = second.seconds)) ∧
    (∀ time, ¬ IsWritable time → dateText? time = none) := by
  refine ⟨fun time h => ⟨wordsOf time, .ofInstant time, ?_, isDateOf_wordsOf time⟩,
    fun first second hfirst hsecond => ?_, fun time h => ?_⟩
  · rw [dateText?_eq, if_pos h]
  · rw [dateText?_eq, if_pos hfirst, dateText?_eq, if_pos hsecond, Option.some.injEq]
    constructor
    · intro htext
      have hread := congrArg secondsOfText? htext
      rwa [secondsOfText?_wordsOf, secondsOfText?_wordsOf, Option.some.injEq] at hread
    · exact fun hseconds => congrArg DateWords.text (wordsOf_congr hseconds)
  · rw [dateText?_eq, if_neg h]

/-- Half a second before 1970 is still 1969. -/
theorem date_before_epoch_is_floored :
    let late : Instant := { seconds := -1, nanos := 500000000 }
    let early : Instant := { seconds := -1, nanos := 0 }
    let never : Instant := { seconds := 8210266876800, nanos := 0 }
    dateText? late = some "Wed, 31 Dec 1969 23:59:59 GMT" ∧ dateText? early = dateText? late ∧
      (∃ words stamp, dateText? late = some words.text ∧ IsDateOf late words stamp) ∧
      dateText? never = none :=
  ⟨by decide +kernel, (dateText_is_faithful.2.1 _ _ (by decide) (by decide)).mpr rfl,
    dateText_is_faithful.1 _ (by decide), dateText_is_faithful.2.2 _ (by decide)⟩

end Http

end DeferredResponse
