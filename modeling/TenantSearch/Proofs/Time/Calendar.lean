import Mathlib.Algebra.Group.Int.Defs
import TenantSearch.Time.Timestamp

/-!
# `TenantSearch.Proofs.Time.Calendar`: the date of a day exists

`Date.ofDayNumber` counts through years that begin in March. Here its result is compared with the
calendar: it is a date that the calendar has (`isValid_ofDayNumber`), and a day in the range of
timestamps lies in a year of that range (`year_ofDayNumber_range`).
-/

set_option autoImplicit false

namespace TenantSearch.Time.Date

/-- No month has more than 31 days. -/
theorem daysInMonth_le (year : Int) (month : Nat) : daysInMonth year month ≤ 31 := by
  unfold daysInMonth
  repeat' split
  all_goals decide

/-- Day 365 is the day before March in a leap year. Years begin in March here, so the leap day is
the last day of a year, and the calendar year is the next one. -/
theorem leap_of_lastDay {d : Int} (lower : 0 ≤ d) (upper : d < 146097)
    (hday : d - (365 * yearOfCycle d + yearOfCycle d / 4 - yearOfCycle d / 100) = 365) :
    (yearOfCycle d + 1) % 4 = 0 ∧
      ((yearOfCycle d + 1) % 100 ≠ 0 ∨ (yearOfCycle d + 1) % 400 = 0) := by
  by_cases hlast : d = 146096
  · subst hlast
    decide
  · have hy : yearOfCycle d = (d - d / 1460 + d / 36524 - d / 146096) / 365 := rfl
    obtain ⟨hcentury, hyear⟩ := yearOfCycle_cases lower (by omega)
    rw [hcentury] at hday
    generalize yearOfCycle d = y at *
    rcases hyear with rfl | rfl | rfl | rfl | rfl <;> omega

/-- Leap years, by the rule of the calendar. -/
theorem isLeap_iff (year : Int) :
    isLeap year = true ↔ year % 4 = 0 ∧ (year % 100 ≠ 0 ∨ year % 400 = 0) := by
  simp [isLeap]

/-- The days of a month that begins in March, but for the leap day. The months are taken one by one,
since their lengths come from a formula on one side and from a table on the other. -/
theorem isValid_ofMarch {year month day : Int} (lower : 0 ≤ month) (upper : month ≤ 11)
    (positive : 1 ≤ day) (hday : day ≤ (153 * (month + 1) + 2) / 5 - (153 * month + 2) / 5)
    (hlast : month = 11 → day ≤ 28 ∨ day = 29 ∧ isLeap (year + 1) = true) :
    (ofMarch year month day).isValid = true := by
  have hmonth : month = 0 ∨ month = 1 ∨ month = 2 ∨ month = 3 ∨ month = 4 ∨ month = 5 ∨
      month = 6 ∨ month = 7 ∨ month = 8 ∨ month = 9 ∨ month = 10 ∨ month = 11 := by omega
  rcases hmonth with rfl | rfl | rfl | rfl | rfl | rfl | rfl | rfl | rfl | rfl | rfl | rfl
  case inr.inr.inr.inr.inr.inr.inr.inr.inr.inr.inr =>
    -- February has the number 11.
    rcases hlast rfl with hshort | ⟨rfl, hleap⟩
    · simp [ofMarch, isValid, daysInMonth]
      split <;> omega
    · simp [ofMarch, isValid, daysInMonth, hleap]
  all_goals
    simp [ofMarch, isValid, daysInMonth]
    omega

/-- A day of a year that begins in March is a date, if day 365 is a leap day. -/
theorem isValid_ofDayOfYear {year dayOfYear : Int} (lower : 0 ≤ dayOfYear)
    (upper : dayOfYear ≤ 365) (hleap : dayOfYear = 365 → isLeap (year + 1) = true) :
    (ofDayOfYear year dayOfYear).isValid = true := by
  unfold ofDayOfYear monthOfYear
  refine isValid_ofMarch (by omega) (by omega) (by omega) (by omega) fun hmonth => ?_
  rcases Int.lt_or_eq_of_le upper with hlt | rfl
  · exact .inl (by omega)
  · exact .inr ⟨by decide, hleap rfl⟩

/-- The years of a cycle are leap years as those of the first cycle are. -/
theorem isLeap_add_cycle (cycle year : Int) : isLeap (cycle * 400 + year) = isLeap year := by
  have hiff : isLeap (cycle * 400 + year) = true ↔ isLeap year = true := by
    rw [isLeap_iff, isLeap_iff]
    omega
  exact Bool.eq_iff_iff.2 hiff

/-- Every day number is that of a date. -/
theorem isValid_ofDayNumber (n : Int) : (ofDayNumber n).isValid = true := by
  have hcycle := dayOfCycle_range n
  obtain ⟨hlower, hupper⟩ := dayOfYear_range hcycle.1 hcycle.2
  refine isValid_ofDayOfYear hlower hupper fun hday => ?_
  -- Whole cycles of 400 years do not change which years are leap years.
  rw [add_assoc, isLeap_add_cycle, isLeap_iff]
  exact leap_of_lastDay hcycle.1 hcycle.2 hday

/-- January and February belong to the next year of the calendar. -/
theorem year_ofDayOfYear (year dayOfYear : Int) :
    (ofDayOfYear year dayOfYear).year = if dayOfYear < 306 then year else year + 1 := by
  have hmonth : monthOfYear dayOfYear < 10 ↔ dayOfYear < 306 := by
    unfold monthOfYear
    omega
  simp only [ofDayOfYear, ofMarch, hmonth]
  split <;> rfl

/-- The days of timestamps lie in the years from -262143 to 262142. These are the years that the
reader of timestamps takes. -/
theorem year_ofDayNumber_range {n : Int} (lower : firstDay ≤ n) (upper : n ≤ lastDay) :
    -262143 ≤ (ofDayNumber n).year ∧ (ofDayNumber n).year ≤ 262142 := by
  have hcycle := dayOfCycle_range n
  obtain ⟨y0, y1⟩ := yearOfCycle_range hcycle.1 hcycle.2
  obtain ⟨q0, q1⟩ := dayOfYear_range hcycle.1 hcycle.2
  have hsplit := Int.mul_ediv_add_emod (n + epochShift) daysPerCycle
  simp only [ofDayNumber, year_ofDayOfYear]
  generalize (n + epochShift) % daysPerCycle = dayOfCycle at *
  generalize (n + epochShift) / daysPerCycle = cycle at *
  generalize yearOfCycle dayOfCycle = year at *
  simp only [firstDay, lastDay, daysPerCycle, epochShift] at *
  -- Only the first and the last cycle have days that are out of range.
  have hbounds : cycle = -656 ∨ (-656 < cycle ∧ cycle < 655) ∨ cycle = 655 := by omega
  rcases hbounds with rfl | hbetween | rfl <;> split <;> omega

end TenantSearch.Time.Date
