import Mathlib.Tactic.IntervalCases
import Shapewright.Time.Calendar

/-!
# Days have dates

A period of 400 years has as many days every time, so a date is found by cutting days into such
periods, then into centuries, periods of four years, years and months.  Each cut but the last one
leaves a piece that may be a day longer than the others, at its end.  Whatever the day, the date that
is found exists, and counting its days leads back.

* `YearDay` — a day by its year, where years begin in March, and the parts that this year has.
* `YearDay.ofDays_days` — the date of a day that is given in this way; `exists_yearDay` — each day is.
* `Date.toDays_ofDays`, `Date.isValid_ofDays` — dates and days.
* `Date.year_ofDays_iff` — the days of the years that are written with four digits.
-/

set_option autoImplicit false

namespace Shapewright
namespace Time

/-- A day in years that begin in March: the period of 400 years, the century in it, the period of four
years in that, the year in that, and the day in the year, each counted from zero. -/
structure YearDay where
  era : Int
  century : Int
  four : Int
  one : Int
  day : Int
  century_range : 0 ≤ century ∧ century ≤ 3
  four_range : 0 ≤ four ∧ four ≤ 24
  one_range : 0 ≤ one ∧ one ≤ 3
  day_range : 0 ≤ day ∧ day ≤ 365
  /-- A year with 366 days is the last of four, which are not the last of a century but every 400
  years. -/
  leap : day = 365 → one = 3 ∧ (four < 24 ∨ century = 3)

theorem daysIn_le (year : Int) (month : Nat) : daysIn year month ≤ 31 := by
  unfold daysIn
  split
  case h_1 => split <;> decide
  all_goals decide

namespace YearDay

variable (y : YearDay)

/-- The year in its period of 400. -/
def yearOfEra : Int := 100 * y.century + 4 * y.four + y.one

/-- The day in its period of 400 years. -/
def dayOfEra : Int := 36524 * y.century + 1461 * y.four + 365 * y.one + y.day

/-- Days since 1970-01-01. -/
def days : Int := y.era * 146097 + y.dayOfEra - 719468

/-- The month, counted from March. -/
def month : Int := (5 * y.day + 2) / 153

/-- The date, in years that begin in January. -/
def date : Date :=
  let year := y.yearOfEra + y.era * 400
  ⟨if y.month < 10 then year else year + 1,
    (if y.month < 10 then y.month + 3 else y.month - 9).toNat,
    (y.day - (153 * y.month + 2) / 5 + 1).toNat⟩

theorem dayOfEra_range : 0 ≤ y.dayOfEra ∧ y.dayOfEra < 146097 := by
  obtain ⟨era, c, q, r, d, hc, hq, hr, hd, hleap⟩ := y
  simp only [dayOfEra]
  omega

/-- The year is found from the day, by leaving out the days that leap years have more. -/
theorem yearOfEra_eq : (y.dayOfEra - y.dayOfEra / 1460 + y.dayOfEra / 36524
    - y.dayOfEra / 146096) / 365 = y.yearOfEra := by
  obtain ⟨era, c, q, r, d, hc, hq, hr, hd, hleap⟩ := y
  simp only [dayOfEra, yearOfEra] at *
  generalize hday : 36524 * c + 1461 * q + 365 * r + d = day
  have hfour : day / 1460 = 25 * c + q + (24 * c + q + 365 * r + d) / 1460 := by
    rw [← hday]
    omega
  -- Only the last day of all is not in its century by the length of the others.
  have hlast : day = 146096 ∧ c = 3 ∨ 1461 * q + 365 * r + d < 36524 := by omega
  have hcentury : day / 36524 = c + day / 146096 := by omega
  have hcarried : (24 * c + q + 365 * r + d) / 1460 = 0 ∨ (24 * c + q + 365 * r + d) / 1460 = 1 := by
    omega
  rw [hcentury, hfour]
  omega

theorem day_eq : y.dayOfEra - (365 * y.yearOfEra + y.yearOfEra / 4 - y.yearOfEra / 100) = y.day := by
  obtain ⟨era, c, q, r, d, hc, hq, hr, hd, hleap⟩ := y
  simp only [dayOfEra, yearOfEra] at *
  omega

theorem month_range : 0 ≤ y.month ∧ y.month ≤ 11 := by
  have hday := y.day_range
  rw [month]
  omega

/-- **The date** of a day. -/
theorem ofDays_days : Date.ofDays y.days = y.date := by
  have hrange := y.dayOfEra_range
  have hera : (y.days + 719468).fdiv 146097 = y.era := by
    rw [days, Int.fdiv_eq_ediv_of_nonneg _ (by decide)]
    omega
  have hday : y.days + 719468 - y.era * 146097 = y.dayOfEra := by
    rw [days]
    omega
  rw [Date.ofDays]
  simp only [hera, hday, y.yearOfEra_eq, y.day_eq]
  have hmonth := y.month_range
  rw [month] at hmonth
  rw [date, month]
  congr 1
  split <;> split <;> omega

/-- Counting the days of the date leads back. -/
theorem toDays_date : y.date.toDays = y.days := by
  have hmonth := y.month_range
  have hday := y.day_range
  have hyear : (y.yearOfEra + y.era * 400).fdiv 400 = y.era := by
    rw [Int.fdiv_eq_ediv_of_nonneg _ (by decide)]
    obtain ⟨era, c, q, r, d, hc, hq, hr, hd, hleap⟩ := y
    simp only [yearOfEra]
    omega
  have hback := y.day_eq
  have hinMonth : 0 ≤ y.day - (153 * y.month + 2) / 5 + 1 := by
    rw [month]
    omega
  rw [Date.toDays, date]
  simp only
  by_cases hlow : y.month < 10
  · have hmarch : ¬ (y.month + 3).toNat ≤ 2 := by omega
    simp only [if_pos hlow, if_neg hmarch, hyear, days]
    omega
  · have hjanuary : (y.month - 9).toNat ≤ 2 := by omega
    simp only [if_neg hlow, if_pos hjanuary, Int.add_sub_cancel, hyear, days]
    omega

/-- Each month begins 30 or 31 days after the one before it, and the year ends in the last one. -/
theorem isValid_date : y.date.isValid = true := by
  have hday := y.day_range
  have hleap : y.day = 365 → isLeap (y.yearOfEra + y.era * 400 + 1) = true := by
    intro h
    have hparts := y.leap h
    have hfour := y.four_range
    have hcentury := y.century_range
    simp only [isLeap, Bool.and_eq_true, Bool.or_eq_true, beq_iff_eq, bne_iff_ne, yearOfEra]
    omega
  have hmonth : y.month = (5 * y.day + 2) / 153 := rfl
  obtain ⟨hlow, hhigh⟩ := y.month_range
  rw [date]
  generalize y.yearOfEra + y.era * 400 = year at hleap ⊢
  generalize y.month = m at hmonth hlow hhigh ⊢
  obtain ⟨k, rfl⟩ : ∃ k : Nat, m = k := ⟨m.toNat, by omega⟩
  have hk : k < 12 := by omega
  simp only [Date.isValid, Bool.and_eq_true, decide_eq_true_iff]
  by_cases hlast : k = 11
  · subst hlast
    have hfebruary : daysIn (year + 1) 2 = if isLeap (year + 1) then 29 else 28 := rfl
    by_cases hend : y.day = 365
    · simp [hfebruary, hleap hend]
      omega
    · have hle : 28 ≤ daysIn (year + 1) 2 := by rw [hfebruary]; split <;> decide
      simp
      omega
  · have hbefore : k < 11 := by omega
    interval_cases k <;> simp [daysIn] <;> omega

end YearDay

/-- Each day is in a year. -/
theorem exists_yearDay (days : Int) : ∃ y : YearDay, y.days = days := by
  have hday := Int.emod_nonneg (days + 719468) (show (146097 : Int) ≠ 0 by decide)
  have hlt := Int.emod_lt_of_pos (days + 719468) (show (0 : Int) < 146097 by decide)
  generalize hrest : (days + 719468) % 146097 = day at hday hlt
  let century := min (day / 36524) 3
  let four := (day - 36524 * century) / 1461
  let one := min ((day - 36524 * century - 1461 * four) / 365) 3
  refine ⟨⟨(days + 719468) / 146097, century, four, one,
    day - (36524 * century + 1461 * four + 365 * one), ?_, ?_, ?_, ?_, ?_⟩, ?_⟩
  all_goals simp only [YearDay.days, YearDay.dayOfEra, century, four, one]; omega

namespace Date

/-- **Counting the days** of a date leads back. -/
theorem toDays_ofDays (days : Int) : (ofDays days).toDays = days := by
  obtain ⟨y, rfl⟩ := exists_yearDay days
  rw [y.ofDays_days, y.toDays_date]

/-- **The date of a day** exists. -/
theorem isValid_ofDays (days : Int) : (ofDays days).isValid = true := by
  obtain ⟨y, rfl⟩ := exists_yearDay days
  rw [y.ofDays_days, y.isValid_date]

/-- From the first day of the year 1 to the last one of the year 9999. -/
theorem year_ofDays_iff {days : Int} : (1 ≤ (ofDays days).year ∧ (ofDays days).year ≤ 9999) ↔
    -719162 ≤ days ∧ days ≤ 2932896 := by
  obtain ⟨y, rfl⟩ := exists_yearDay days
  rw [y.ofDays_days]
  have hmonth : y.month = (5 * y.day + 2) / 153 := rfl
  have hdate : y.date.year = if y.month < 10 then y.yearOfEra + y.era * 400
    else y.yearOfEra + y.era * 400 + 1 := rfl
  have hcentury := y.century_range
  have hfour := y.four_range
  have hone := y.one_range
  have hday := y.day_range
  rw [hdate]
  simp only [YearDay.days, YearDay.dayOfEra, YearDay.yearOfEra]
  by_cases hmarch : y.month < 10
  · rw [if_pos hmarch]
    omega
  · rw [if_neg hmarch]
    omega

end Date
end Time
end Shapewright
