import DeferredResponse.Calendar

/-!
# Dates and day numbers

`CivilDate.ofDayNumber` is the inverse of counting days: the date that it finds exists
(`isValid_ofDayNumber`), and the days up to that date are the days that it was given
(`dayNumber_ofDayNumber`). Years follow one another without gaps: the first of January tells the
dates of a year and later ones from those before it (`le_year_iff`).
-/

namespace DeferredResponse

/-- The leap days up to a year come from the years that 4, 100 and 400 divide. -/
theorem leapDays_eq (year : Int) :
    (leapDays year : Int) =
      year / 4 - (year - 1) / 4 - (year / 100 - (year - 1) / 100) +
        (year / 400 - (year - 1) / 400) := by
  by_cases h4 : year % 4 = 0 <;> by_cases h100 : year % 100 = 0 <;>
    by_cases h400 : year % 400 = 0 <;> simp [leapDays, isLeapYear, h4, h100, h400] <;> omega

namespace CivilDate

/-- From March on, the months before contain the leap day. -/
theorem daysBeforeMonth_add_three (year : Int) {m : Nat} (h : m < 10) :
    daysBeforeMonth year (m + 3) = 59 + leapDays year + (153 * m + 2) / 5 := by
  have hm : m = 0 ∨ m = 1 ∨ m = 2 ∨ m = 3 ∨ m = 4 ∨ m = 5 ∨ m = 6 ∨ m = 7 ∨ m = 8 ∨ m = 9 := by
    omega
  rcases hm with rfl | rfl | rfl | rfl | rfl | rfl | rfl | rfl | rfl | rfl <;>
    simp only [daysBeforeMonth, Nat.reduceAdd, daysInMonth] <;> omega

/-- A year has 365 days and its leap day. -/
theorem daysBeforeYear_add_one (year : Int) :
    daysBeforeYear (year + 1) = daysBeforeYear year + 365 + leapDays year := by
  rw [leapDays_eq]; simp only [daysBeforeYear]; omega

/-- The day number of the first of March. -/
theorem dayNumber_firstOfMarch (year : Int) :
    dayNumber ⟨year, 3, 1⟩ = 365 * year + year / 4 - year / 100 + year / 400 - 719468 := by
  have h := daysBeforeMonth_add_three year (m := 0) (by omega)
  have hl := leapDays_eq year
  simp only [dayNumber, Nat.zero_add] at h ⊢
  simp only [h, daysBeforeYear]
  omega

/-- No day precedes January, and its days precede February. -/
theorem daysBeforeMonth_january (year : Int) :
    daysBeforeMonth year 1 = 0 ∧ daysBeforeMonth year 2 = 31 := ⟨rfl, rfl⟩

/-- The days of March to February follow the first of March. -/
theorem dayNumber_ofMarchDay (year : Int) (day : Nat) (h : day ≤ 365) :
    (ofMarchDay year day).dayNumber = dayNumber ⟨year, 3, 1⟩ + day := by
  have hfirst := daysBeforeMonth_add_three year (m := 0) (by omega)
  by_cases hm : (5 * day + 2) / 153 < 10
  · have hmonth := daysBeforeMonth_add_three year hm
    simp only [ofMarchDay, hm, if_true, dayNumber, Nat.zero_add] at hfirst ⊢
    rw [hmonth, hfirst]
    omega
  · have hyear := daysBeforeYear_add_one year
    have hm' : (5 * day + 2) / 153 = 10 ∨ (5 * day + 2) / 153 = 11 := by omega
    simp only [ofMarchDay, hm, if_false, dayNumber, Nat.zero_add] at hfirst ⊢
    rw [hfirst, hyear]
    obtain ⟨hjanuary, hfebruary⟩ := daysBeforeMonth_january (year + 1)
    rcases hm' with h' | h' <;> simp only [h', Nat.reduceSub, hjanuary, hfebruary] <;> omega

/-- A day of the cycle lies so many days after the start of its year; only a leap year has a day
365. -/
theorem splitCycle_bounds {day : Nat} (h : day < 146097) :
    (splitCycle day).1 < 400 ∧
      day + (splitCycle day).1 / 100 =
        365 * (splitCycle day).1 + (splitCycle day).1 / 4 + (splitCycle day).2 ∧
      (splitCycle day).2 ≤ 365 ∧
      ((splitCycle day).2 = 365 → ((splitCycle day).1 + 1) % 4 = 0 ∧
        (((splitCycle day).1 + 1) % 100 = 0 → (splitCycle day).1 = 399)) := by
  simp only [splitCycle]
  obtain ⟨c, hc⟩ : ∃ c, min (day / 36524) 3 = c := ⟨_, rfl⟩
  rw [hc]
  obtain ⟨r, hr⟩ : ∃ r, day - 36524 * c = r := ⟨_, rfl⟩
  rw [hr]
  obtain ⟨g, hg⟩ : ∃ g, r / 1461 = g := ⟨_, rfl⟩
  obtain ⟨q, hq⟩ : ∃ q, r % 1461 = q := ⟨_, rfl⟩
  rw [hg, hq]
  obtain ⟨s, hs⟩ : ∃ s, min (q / 365) 3 = s := ⟨_, rfl⟩
  rw [hs]
  have hc3 : c ≤ 3 := by omega
  have hday : day = 36524 * c + r := by omega
  have hr' : r ≤ 36524 := by omega
  have hr'' : r = 36524 → c = 3 := by omega
  have hrq : r = 1461 * g + q := by omega
  have hq' : q < 1461 := by omega
  have hs3 : s ≤ 3 := by omega
  have hsq : 365 * s ≤ q := by omega
  have hq3 : q ≤ 365 * s + 365 := by omega
  have hq4 : q = 365 * s + 365 → s = 3 := by omega
  clear hc hr hg hq hs
  have e4 : (100 * c + 4 * g + s) / 4 = 25 * c + g := by omega
  have hg24 : g ≤ 24 := by omega
  have e100 : (100 * c + 4 * g + s) / 100 = c := by omega
  rw [e4, e100]
  refine ⟨by omega, by omega, by omega, fun h365 => ?_⟩
  have hs' : s = 3 := by omega
  refine ⟨by omega, fun h100 => ?_⟩
  have : g = 24 := by omega
  omega

/-- Counting the days up to the date of a day gives the day back. -/
theorem dayNumber_ofDayNumber (day : Int) : (ofDayNumber day).dayNumber = day := by
  have h := splitCycle_bounds (show ((day + 719468) % 146097).toNat < 146097 by omega)
  simp only [ofDayNumber]
  obtain ⟨y, hy⟩ : ∃ y, (splitCycle ((day + 719468) % 146097).toNat).1 = y := ⟨_, rfl⟩
  obtain ⟨d, hd⟩ : ∃ d, (splitCycle ((day + 719468) % 146097).toNat).2 = d := ⟨_, rfl⟩
  rw [hy, hd] at h ⊢
  rw [dayNumber_ofMarchDay _ _ (by omega), dayNumber_firstOfMarch]
  obtain ⟨e, he⟩ : ∃ e, (day + 719468) / 146097 = e := ⟨_, rfl⟩
  rw [he]
  have h4 : (400 * e + (y : Int)) / 4 = 100 * e + (y / 4 : Nat) := by omega
  have h100 : (400 * e + (y : Int)) / 100 = 4 * e + (y / 100 : Nat) := by omega
  have h400 : (400 * e + (y : Int)) / 400 = e := by omega
  omega

/-- The days of March to February have dates that exist. -/
theorem isValid_ofMarchDay (year : Int) (day : Nat)
    (h : day < 365 + leapDays (year + 1)) : (ofMarchDay year day).IsValid := by
  have hl : leapDays (year + 1) ≤ 1 := by simp only [leapDays]; split <;> omega
  obtain ⟨m, hm⟩ : ∃ m, (5 * day + 2) / 153 = m := ⟨_, rfl⟩
  simp only [IsValid, ofMarchDay, hm]
  by_cases h11 : m = 11
  · have hf : daysInMonth (year + 1) 2 = 28 + leapDays (year + 1) := rfl
    subst h11
    simp only [Nat.reduceLT, if_false, Nat.reduceSub, hf]
    omega
  · have hcases : m = 0 ∨ m = 1 ∨ m = 2 ∨ m = 3 ∨ m = 4 ∨ m = 5 ∨ m = 6 ∨ m = 7 ∨ m = 8 ∨
        m = 9 ∨ m = 10 := by omega
    rcases hcases with rfl | rfl | rfl | rfl | rfl | rfl | rfl | rfl | rfl | rfl | rfl <;>
      simp [daysInMonth] <;> omega

/-- The date of a day exists. -/
theorem isValid_ofDayNumber (day : Int) : (ofDayNumber day).IsValid := by
  have h := splitCycle_bounds (show ((day + 719468) % 146097).toNat < 146097 by omega)
  simp only [ofDayNumber]
  obtain ⟨y, hy⟩ : ∃ y, (splitCycle ((day + 719468) % 146097).toNat).1 = y := ⟨_, rfl⟩
  obtain ⟨d, hd⟩ : ∃ d, (splitCycle ((day + 719468) % 146097).toNat).2 = d := ⟨_, rfl⟩
  rw [hy, hd] at h ⊢
  apply isValid_ofMarchDay
  by_cases h365 : d = 365
  · obtain ⟨e, he⟩ : ∃ e, (day + 719468) / 146097 = e := ⟨_, rfl⟩
    rw [he]
    obtain ⟨h4, h100⟩ := h.2.2.2 h365
    have hleap : isLeapYear (400 * e + (y : Int) + 1) := by
      by_cases hy100 : (y + 1) % 100 = 0
      · have := h100 hy100
        simp [isLeapYear]; omega
      · simp [isLeapYear]; omega
    simp [leapDays, hleap]; omega
  · omega

/-- A later year starts later. -/
theorem daysBeforeYear_mono {first second : Int} (h : first ≤ second) :
    daysBeforeYear first ≤ daysBeforeYear second := by
  simp only [daysBeforeYear]
  omega

/-- No month reaches beyond the end of its year. -/
theorem daysBeforeMonth_add_daysInMonth_le (year : Int) {month : Nat} (h : month ≤ 12) :
    daysBeforeMonth year month + daysInMonth year month ≤ 365 + leapDays year := by
  have hm : month = 0 ∨ month = 1 ∨ month = 2 ∨ month = 12 ∨ ∃ m < 9, month = m + 3 := by
    by_cases hm : month < 3
    · omega
    · by_cases hlast : month = 12
      · omega
      · exact .inr (.inr (.inr (.inr ⟨month - 3, by omega, by omega⟩)))
  rcases hm with rfl | rfl | rfl | rfl | ⟨m, hm, rfl⟩
  · simp only [daysBeforeMonth, daysInMonth]; omega
  · simp only [daysBeforeMonth, daysInMonth]; omega
  · simp only [daysBeforeMonth, daysInMonth]; omega
  · have hdecember := daysBeforeMonth_add_three year (m := 9) (by omega)
    simp only [Nat.reduceAdd] at hdecember
    simp only [hdecember, daysInMonth]
    omega
  · have hnext := daysBeforeMonth_add_three year (m := m + 1) (by omega)
    have hstep : daysBeforeMonth year (m + 1 + 3) =
        daysBeforeMonth year (m + 3) + daysInMonth year (m + 3) := rfl
    omega

/-- A date lies in a year or after it if and only if it does not precede the first of January. -/
theorem le_year_iff {date : CivilDate} (h : date.IsValid) (year : Int) :
    year ≤ date.year ↔ dayNumber ⟨year, 1, 1⟩ ≤ date.dayNumber := by
  have hfirst : dayNumber ⟨year, 1, 1⟩ = daysBeforeYear year - daysBeforeYear 1970 := by
    simp [dayNumber, daysBeforeMonth]
  have hmonth := daysBeforeMonth_add_daysInMonth_le date.year h.2.1
  have hyear := daysBeforeYear_add_one date.year
  obtain ⟨-, -, hday, hlast⟩ := h
  rw [hfirst, dayNumber]
  constructor
  · intro hle
    have hmono := daysBeforeYear_mono hle
    omega
  · intro hle
    by_cases hlate : year ≤ date.year
    · exact hlate
    · have hmono := daysBeforeYear_mono (show date.year + 1 ≤ year by omega)
      omega

end CivilDate

end DeferredResponse
