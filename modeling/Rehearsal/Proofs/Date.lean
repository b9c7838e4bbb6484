import Rehearsal.Timestamp

/-!
# Days and dates

A day of an era of 400 years is taken apart into century, cycle of four years, year and day
(`EraDay`), years being taken to begin in March. Main statements: every number of a day gives a date
of the calendar (`isValid_ofDays`), and the date has this number (`daysOf_ofDays`).
-/

namespace Rehearsal.Date

theorem isLeapYear_iff {year : Int} :
    isLeapYear year = true ↔ year % 4 = 0 ∧ (year % 100 ≠ 0 ∨ year % 400 = 0) := by
  simp [isLeapYear]

/-- A day of an era: its century, the cycle of four years in it, the year of the cycle and the day
of the year. A year has a day 365 if it is the last one of its cycle, and if its cycle is the last
one of a century, only at the end of the era. -/
structure EraDay where
  century : Nat
  cycle : Nat
  year : Nat
  day : Nat
  century_le : century ≤ 3
  cycle_le : cycle ≤ 24
  year_le : year ≤ 3
  day_le : day ≤ 365
  leap : day = 365 → year = 3 ∧ (cycle = 24 → century = 3)

namespace EraDay

/-- The number of the day in its era. -/
def number (e : EraDay) : Nat := 36524 * e.century + 1461 * e.cycle + 365 * e.year + e.day

/-- The number of its year in the era. -/
def yearOfEra (e : EraDay) : Nat := 100 * e.century + 4 * e.cycle + e.year

theorem exists_of_lt {d : Nat} (h : d < 146097) : ∃ e : EraDay, e.number = d := by
  obtain ⟨c, hc, r, hr, hd⟩ : ∃ c ≤ 3, ∃ r, (r < 36524 ∨ r = 36524 ∧ c = 3) ∧ d = 36524 * c + r :=
    ⟨min 3 (d / 36524), by omega, d - 36524 * min 3 (d / 36524), by omega, by omega⟩
  obtain ⟨q, hq, s, hs, hr⟩ : ∃ q ≤ 24, ∃ s < 1461, r = 1461 * q + s :=
    ⟨r / 1461, by omega, r % 1461, by omega, by omega⟩
  obtain ⟨a, ha, t, ht, hs⟩ : ∃ a ≤ 3, ∃ t, (t < 365 ∨ t = 365 ∧ a = 3) ∧ s = 365 * a + t :=
    ⟨min 3 (s / 365), by omega, s - 365 * min 3 (s / 365), by omega, by omega⟩
  refine ⟨⟨c, q, a, t, hc, hq, ha, by omega, by omega⟩, ?_⟩
  show 36524 * c + 1461 * q + 365 * a + t = d
  omega

theorem yearOfEra_lt (e : EraDay) : e.yearOfEra < 400 := by
  have hcentury := e.century_le
  have hcycle := e.cycle_le
  have hyear := e.year_le
  rw [yearOfEra]
  omega

/-- The days of an era in years of 365 days, once the leap days before them are taken off. -/
theorem yearOfEra_eq (e : EraDay) :
    (e.number - e.number / 1460 + e.number / 36524 - e.number / 146096) / 365 = e.yearOfEra := by
  obtain ⟨c, q, a, t, hc, hq, ha, ht, hleap⟩ := e
  simp only [number, yearOfEra]
  generalize hd : 36524 * c + 1461 * q + 365 * a + t = d
  by_cases hera : d = 146096
  · subst hera
    omega
  · have h₁ : d / 36524 = c := by omega
    have h₂ : d / 146096 = 0 := by omega
    rw [h₁, h₂]
    omega

theorem day_eq (e : EraDay) :
    e.number - (365 * e.yearOfEra + e.yearOfEra / 4 - e.yearOfEra / 100) = e.day := by
  obtain ⟨c, q, a, t, hc, hq, ha, ht, hleap⟩ := e
  simp only [number, yearOfEra]
  omega

theorem number_eq (e : EraDay) :
    (e.number : Int) = 365 * e.yearOfEra + e.yearOfEra / 4 - e.yearOfEra / 100 + e.day := by
  obtain ⟨c, q, a, t, hc, hq, ha, ht, hleap⟩ := e
  simp only [number, yearOfEra]
  omega

/-- A year with a day 365 ends with the leap day of the next one. -/
theorem isLeapYear_of_day (e : EraDay) (h : e.day = 365) (era : Int) :
    isLeapYear (e.yearOfEra + era * 400 + 1) = true := by
  obtain ⟨hyear, hcycle⟩ := e.leap h
  have hcentury := e.century_le
  have hcycle' := e.cycle_le
  rw [isLeapYear_iff, yearOfEra]
  omega

end EraDay

/-- The month, March being 0, of a day in its year. -/
def monthOfDay (day : Nat) : Nat := (5 * day + 2) / 153

theorem monthOfDay_spec {day : Nat} (h : day ≤ 365) : monthOfDay day ≤ 11
    ∧ daysBeforeMonth (monthOfDay day) ≤ day ∧ day < daysBeforeMonth (monthOfDay day + 1) := by
  simp only [monthOfDay, daysBeforeMonth]
  omega

/-- The month of the calendar that a month of a year from March on is. -/
def calendarMonth (m : Nat) : Nat := if m < 10 then m + 3 else m - 9

theorem calendarMonth_mod {m : Nat} (h : m ≤ 11) : (calendarMonth m + 9) % 12 = m := by
  unfold calendarMonth
  split <;> omega

theorem ofDays_eq {n era : Int} {e : EraDay} (h : n + 719468 = era * 146097 + e.number)
    (hlt : e.number < 146097) : ofDays n =
      ⟨e.yearOfEra + era * 400 + (if calendarMonth (monthOfDay e.day) ≤ 2 then 1 else 0),
        calendarMonth (monthOfDay e.day), e.day - daysBeforeMonth (monthOfDay e.day) + 1⟩ := by
  have hera : (n + 719468) / 146097 = era := by omega
  have hday : ((n + 719468) % 146097).toNat = e.number := by omega
  simp only [ofDays, hera, hday, e.yearOfEra_eq, e.day_eq, monthOfDay]
  rfl

/-- Every number of a day is that of a day of some era. -/
theorem exists_eraDay (n : Int) : ∃ (era : Int) (e : EraDay), n + 719468 = era * 146097 + e.number
    ∧ e.number < 146097 := by
  have hlt : ((n + 719468) % 146097).toNat < 146097 := by omega
  obtain ⟨e, he⟩ := EraDay.exists_of_lt hlt
  exact ⟨(n + 719468) / 146097, e, by omega, by omega⟩

/-- The date of a number of a day has this number. -/
theorem daysOf_ofDays (n : Int) : (ofDays n).daysOf = n := by
  obtain ⟨era, e, hn, hlt⟩ := exists_eraDay n
  obtain ⟨hm, hle, -⟩ := monthOfDay_spec e.day_le
  have hnumber := e.number_eq
  have hyear := e.yearOfEra_lt
  rw [ofDays_eq hn hlt]
  simp only [daysOf, calendarMonth_mod hm]
  split <;> omega

/-- A month from March on has as many days as lie between its start and that of the next one. -/
theorem daysInMonth_calendarMonth {m : Nat} (h : m ≤ 10) (year : Int) :
    daysInMonth year (calendarMonth m) = daysBeforeMonth (m + 1) - daysBeforeMonth m := by
  have hfebruary : calendarMonth m ≠ 2 := by
    unfold calendarMonth
    split <;> omega
  rw [daysInMonth, if_neg hfebruary]
  have hall : ∀ m ≤ 10, (if calendarMonth m = 4 ∨ calendarMonth m = 6 ∨ calendarMonth m = 9
      ∨ calendarMonth m = 11 then 30 else 31) = daysBeforeMonth (m + 1) - daysBeforeMonth m := by
    decide
  exact hall m h

/-- Every number of a day gives a date of the calendar. -/
theorem isValid_ofDays (n : Int) : (ofDays n).isValid = true := by
  obtain ⟨era, e, hn, hlt⟩ := exists_eraDay n
  obtain ⟨hm, hle, hnext⟩ := monthOfDay_spec e.day_le
  have hmonth : 1 ≤ calendarMonth (monthOfDay e.day) ∧ calendarMonth (monthOfDay e.day) ≤ 12 := by
    unfold calendarMonth
    split <;> omega
  rw [ofDays_eq hn hlt]
  simp only [isValid, Bool.and_eq_true, decide_eq_true_eq]
  refine ⟨⟨hmonth, by omega⟩, ?_⟩
  rcases Nat.lt_or_ge (monthOfDay e.day) 11 with hlt | hge
  · rw [daysInMonth_calendarMonth (by omega)]
    omega
  · -- February, which has its last day only in a leap year
    have heq : monthOfDay e.day = 11 := by omega
    have hday := e.day_le
    rw [heq]
    show e.day - 337 + 1 ≤ if isLeapYear (e.yearOfEra + era * 400 + 1) = true then 29 else 28
    split
    · omega
    · next hleap =>
      have hnot : e.day ≠ 365 := fun h => hleap (e.isLeapYear_of_day h era)
      omega

end Rehearsal.Date
