/-
The calendar, forwards and backwards.

`Date.ofDay` finds for every day a date that exists in the calendar
(`Date.valid_ofDay`) and whose day number is that day (`Date.dayNumber_ofDay`).

Both facts rest on one way of taking an era of 400 years apart: a day of the era
lies in a century, in a span of four years of it, in a year of the span and on a
day of that year (`Date.exists_place`).  In these terms the divisions by which
`ofDay` finds the year have their values at hand (`Date.Place.yearOfEra_eq`).
-/
import Mathlib.Tactic.IntervalCases
import SqlAccess.Calendar

namespace SqlAccess.Date

/-- A place in an era: the century, the span of four years in it, the year of the span,
and the day of the year, which starts in March.  Only the last year of a span has a 366th
day, and only in the last century the last span of the century has one. -/
structure Place where
  century : Int
  span : Int
  year : Int
  day : Int
  century_range : 0 ≤ century ∧ century ≤ 3
  span_range : 0 ≤ span ∧ span ≤ 24
  year_range : 0 ≤ year ∧ year ≤ 3
  day_range : 0 ≤ day ∧ day ≤ 365
  leap : day = 365 → year = 3 ∧ (span < 24 ∨ century = 3)

namespace Place

/-- The day of the era. -/
def dayOfEra (p : Place) : Int := 36524 * p.century + 1461 * p.span + 365 * p.year + p.day

/-- The year of the era. -/
def yearOfEra (p : Place) : Int := 100 * p.century + 4 * p.span + p.year

theorem yearOfEra_range (p : Place) : 0 ≤ p.yearOfEra ∧ p.yearOfEra ≤ 399 := by
  have hc := p.century_range
  have hs := p.span_range
  have hy := p.year_range
  rw [yearOfEra]
  omega

/-- The day of the era corrected by the leap days before it, and divided by 365. -/
theorem yearOfEra_eq (p : Place) :
    (p.dayOfEra - p.dayOfEra / 1460 + p.dayOfEra / 36524 - p.dayOfEra / 146096) / 365 =
      p.yearOfEra := by
  obtain ⟨c, s, y, d, hc, hs, hy, hd, hl⟩ := p
  simp only [dayOfEra, yearOfEra]
  -- the last of the corrections is for the last day of the era alone
  by_cases hlast : c = 3 ∧ s = 24 ∧ d = 365
  · obtain ⟨rfl, rfl, rfl⟩ := hlast
    obtain ⟨rfl, -⟩ := hl rfl
    rfl
  · generalize he : 36524 * c + 1461 * s + 365 * y + d = e
    have h1 : e / 36524 = c := by omega
    have h2 : e / 146096 = 0 := by omega
    have h3 : e / 1460 = 25 * c + s + (24 * c + s + 365 * y + d) / 1460 := by omega
    rw [h1, h2, h3]
    omega

/-- The days of the era before the year, counted with its leap years. -/
theorem dayOfEra_sub (p : Place) :
    p.dayOfEra - (365 * p.yearOfEra + p.yearOfEra / 4 - p.yearOfEra / 100) = p.day := by
  obtain ⟨c, s, y, d, hc, hs, hy, hd, hl⟩ := p
  simp only [dayOfEra, yearOfEra]
  have h4 : (100 * c + 4 * s + y) / 4 = 25 * c + s := by omega
  have h100 : (100 * c + 4 * s + y) / 100 = c := by omega
  rw [h4, h100]
  omega

/-- The calendar year in which a 366th day falls is a leap year. -/
theorem isLeapYear_of_day (p : Place) (h : p.day = 365) (era : Int) :
    isLeapYear (p.yearOfEra + era * 400 + 1) = true := by
  obtain ⟨c, s, y, d, hc, hs, hy, hd, hl⟩ := p
  obtain ⟨rfl, hs'⟩ := hl h
  simp only [yearOfEra, isLeapYear, Bool.and_eq_true, Bool.or_eq_true, beq_iff_eq,
    bne_iff_ne, ne_eq]
  omega

end Place

/-- Every day of an era has a place. -/
theorem exists_place {d : Int} (h0 : 0 ≤ d) (h1 : d < 146097) : ∃ p : Place, p.dayOfEra = d := by
  by_cases hlast : d = 146096
  · exact ⟨⟨3, 24, 3, 365, by omega, by omega, by omega, by omega, by omega⟩, hlast.symm⟩
  · -- the last day of a span would otherwise count as the first of a fifth year
    by_cases hleap : d % 36524 % 1461 = 1460
    · exact ⟨⟨d / 36524, d % 36524 / 1461, 3, 365,
        by omega, by omega, by omega, by omega, by omega⟩, by simp only [Place.dayOfEra]; omega⟩
    · exact ⟨⟨d / 36524, d % 36524 / 1461, d % 36524 % 1461 / 365, d % 36524 % 1461 % 365,
        by omega, by omega, by omega, by omega, by omega⟩, by simp only [Place.dayOfEra]; omega⟩

/-- The date of a day of a year that starts in March. -/
def ofMarchYear (year dayOfYear : Int) : Date :=
  let month := (5 * dayOfYear + 2) / 153
  ⟨if month < 10 then year else year + 1,
    (if month < 10 then month + 3 else month - 9).toNat,
    (dayOfYear - (153 * month + 2) / 5 + 1).toNat⟩

/-- The date of a day is that of its place in the era. -/
theorem ofDay_eq (n : Int) : ∃ (era : Int) (p : Place),
    n + 719468 = 146097 * era + p.dayOfEra ∧
      ofDay n = ofMarchYear (p.yearOfEra + era * 400) p.day := by
  obtain ⟨p, hp⟩ := exists_place (d := (n + 719468) % 146097) (by omega) (by omega)
  refine ⟨(n + 719468) / 146097, p, by omega, ?_⟩
  simp only [ofDay, ofMarchYear, ← hp, p.yearOfEra_eq, p.dayOfEra_sub]

theorem ofMarchYear_early {year d : Int} (h : (5 * d + 2) / 153 < 10) :
    ofMarchYear year d = ⟨year, ((5 * d + 2) / 153 + 3).toNat,
      (d - (153 * ((5 * d + 2) / 153) + 2) / 5 + 1).toNat⟩ := by
  simp only [ofMarchYear, if_pos h]

theorem ofMarchYear_late {year d : Int} (h : ¬ (5 * d + 2) / 153 < 10) :
    ofMarchYear year d = ⟨year + 1, ((5 * d + 2) / 153 - 9).toNat,
      (d - (153 * ((5 * d + 2) / 153) + 2) / 5 + 1).toNat⟩ := by
  simp only [ofMarchYear, if_neg h]

/-- The number of a day of a year that starts in March. -/
theorem dayNumber_ofMarchYear (year : Int) {d : Int} (h0 : 0 ≤ d) (h1 : d ≤ 365) :
    (ofMarchYear year d).dayNumber =
      365 * year + year / 4 - year / 100 + year / 400 + d - 719468 := by
  -- January and February come last, and have the next year in the calendar
  by_cases h : (5 * d + 2) / 153 < 10
  · have hmonth : ¬ ((5 * d + 2) / 153 + 3).toNat ≤ 2 := by omega
    simp only [ofMarchYear_early h, dayNumber, if_neg hmonth]
    omega
  · have hmonth : ((5 * d + 2) / 153 - 9).toNat ≤ 2 := by omega
    simp only [ofMarchYear_late h, dayNumber, if_pos hmonth]
    omega

/-- **The date of a day has the number of that day.** -/
theorem dayNumber_ofDay (n : Int) : (ofDay n).dayNumber = n := by
  obtain ⟨era, p, hn, hday⟩ := ofDay_eq n
  have hd := p.day_range
  have hy := p.yearOfEra_range
  have hsub := p.dayOfEra_sub
  rw [hday, dayNumber_ofMarchYear _ hd.1 hd.2]
  omega

/-- The months from March on end where the rule of `ofMarchYear` lets them end. -/
theorem daysInMonth_march (year : Int) {m : Nat} (h : m < 10) :
    (daysInMonth year (m + 3) : Int) = (153 * (m + 1) + 2) / 5 - (153 * m + 2) / 5 := by
  interval_cases m <;> rfl

/-- A day of a year that starts in March is a day of the calendar, unless it is a 29th of
February that the year does not have. -/
theorem valid_ofMarchYear {year d : Int} (h0 : 0 ≤ d) (h1 : d ≤ 365)
    (hleap : d = 365 → isLeapYear (year + 1) = true) : (ofMarchYear year d).Valid := by
  -- `m` counts the months from March on
  obtain ⟨m, hm⟩ : ∃ m : Nat, (5 * d + 2) / 153 = m := ⟨((5 * d + 2) / 153).toNat, by omega⟩
  by_cases h : (5 * d + 2) / 153 < 10
  · have hlength := daysInMonth_march year (m := m) (by omega)
    have hmonth : ((m : Int) + 3).toNat = m + 3 := by omega
    rw [ofMarchYear_early h, hm, hmonth]
    show 1 ≤ m + 3 ∧ m + 3 ≤ 12 ∧ 1 ≤ (d - (153 * m + 2) / 5 + 1).toNat ∧
      (d - (153 * m + 2) / 5 + 1).toNat ≤ daysInMonth year (m + 3)
    omega
  · rw [ofMarchYear_late h, hm]
    obtain rfl | rfl : m = 10 ∨ m = 11 := by omega
    · show 1 ≤ 1 ∧ 1 ≤ 12 ∧ 1 ≤ (d - 306 + 1).toNat ∧ (d - 306 + 1).toNat ≤ 31
      omega
    · show 1 ≤ 2 ∧ 2 ≤ 12 ∧ 1 ≤ (d - 337 + 1).toNat ∧
        (d - 337 + 1).toNat ≤ if isLeapYear (year + 1) then 29 else 28
      refine ⟨by omega, by omega, by omega, ?_⟩
      -- the 29th of February is the day 365 of the year
      split
      · omega
      · next hnot =>
        have hday : d ≠ 365 := fun heq => hnot (hleap heq)
        omega

/-- **The date of a day is a date of the calendar.** -/
theorem valid_ofDay (n : Int) : (ofDay n).Valid := by
  obtain ⟨era, p, -, hday⟩ := ofDay_eq n
  have hd := p.day_range
  rw [hday]
  exact valid_ofMarchYear hd.1 hd.2 fun h => p.isLeapYear_of_day h era

end SqlAccess.Date
