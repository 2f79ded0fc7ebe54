/-!
# `TenantSearch.Time.Calendar`: days and dates

Days are counted from 1970-01-01, and dates are those of the Gregorian calendar, extended in
both directions. The count goes through years that begin in March, so that the leap day is the
last day of its year, and through cycles of 400 years, which all have 146 097 days.

`dayNumber_ofDayNumber` says that the count of the date of a day is that day.
-/

set_option autoImplicit false

namespace TenantSearch.Time

/-- A date. -/
structure Date where
  year : Int
  month : Nat
  day : Nat
deriving DecidableEq

namespace Date

/-- Whether the year has a leap day. -/
def isLeap (year : Int) : Bool :=
  year % 4 = 0 && (year % 100 ≠ 0 || year % 400 = 0)

/-- How many days the month has. -/
def daysInMonth (year : Int) (month : Nat) : Nat :=
  if month = 2 then (if isLeap year then 29 else 28)
  else if month = 4 ∨ month = 6 ∨ month = 9 ∨ month = 11 then 30
  else 31

/-- Whether the calendar has the date. -/
def isValid (d : Date) : Bool :=
  1 ≤ d.month && d.month ≤ 12 && 1 ≤ d.day && d.day ≤ daysInMonth d.year d.month

/-- The day of 0000-03-01. -/
def epochShift : Int := 719468

/-- How many days 400 years have. -/
def daysPerCycle : Int := 146097

/-- The day of the given day of a month, counted from 1970-01-01. Years begin in March here,
and March is month 0. -/
def dayNumberFromMarch (year month day : Int) : Int :=
  let yearOfCycle := year % 400
  let dayOfYear := (153 * month + 2) / 5 + day - 1
  let dayOfCycle := yearOfCycle * 365 + yearOfCycle / 4 - yearOfCycle / 100 + dayOfYear
  year / 400 * daysPerCycle + dayOfCycle - epochShift

/-- The day of the date, counted from 1970-01-01. -/
def dayNumber (d : Date) : Int :=
  if d.month ≤ 2 then dayNumberFromMarch (d.year - 1) (d.month + 9) d.day
  else dayNumberFromMarch d.year (d.month - 3) d.day

/-- The date of a day of a month, where years begin in March and March is month 0. -/
def ofMarch (year month day : Int) : Date :=
  if month < 10 then ⟨year, (month + 3).toNat, day.toNat⟩
  else ⟨year + 1, (month - 9).toNat, day.toNat⟩

/-- The year of the cycle in which a day of the cycle lies. -/
def yearOfCycle (dayOfCycle : Int) : Int :=
  (dayOfCycle - dayOfCycle / 1460 + dayOfCycle / 36524 - dayOfCycle / 146096) / 365

/-- The month in which a day of the year lies. -/
def monthOfYear (dayOfYear : Int) : Int := (5 * dayOfYear + 2) / 153

/-- The date of a day of a year of a cycle. -/
def ofDayOfYear (year dayOfYear : Int) : Date :=
  let month := monthOfYear dayOfYear
  ofMarch year month (dayOfYear - (153 * month + 2) / 5 + 1)

/-- The date of a day. -/
def ofDayNumber (n : Int) : Date :=
  let cycle := (n + epochShift) / daysPerCycle
  let dayOfCycle := (n + epochShift) % daysPerCycle
  let year := yearOfCycle dayOfCycle
  ofDayOfYear (cycle * 400 + year) (dayOfCycle - (365 * year + year / 4 - year / 100))

/-- A date that is counted from March has the day number it is counted to. Counting from March puts
the leap day at the end of the year, and the two counts agree on all other days. -/
theorem dayNumber_ofMarch {year month day : Int} (lower : 0 ≤ month) (upper : month ≤ 11)
    (positive : 0 ≤ day) :
    (ofMarch year month day).dayNumber = dayNumberFromMarch year month day := by
  unfold ofMarch
  -- January and February belong to the year that began in the March before.
  split
  · have hle : ¬ (month + 3).toNat ≤ 2 := by omega
    have hmonth : ((month + 3).toNat : Int) - 3 = month := by omega
    simp only [dayNumber, hle, if_false, hmonth, Int.toNat_of_nonneg positive]
  · have hle : (month - 9).toNat ≤ 2 := by omega
    have hmonth : ((month - 9).toNat : Int) + 9 = month := by omega
    simp only [dayNumber, hle, if_true, hmonth, Int.toNat_of_nonneg positive,
      Int.add_sub_cancel]

/-- The day number of a day in a year that begins in March: the days of the years before it, and the
days in its own. -/
theorem dayNumber_ofDayOfYear {year dayOfYear : Int} (lower : 0 ≤ dayOfYear)
    (upper : dayOfYear ≤ 365) :
    (ofDayOfYear year dayOfYear).dayNumber
      = year / 400 * daysPerCycle
        + (year % 400 * 365 + year % 400 / 4 - year % 400 / 100 + dayOfYear)
        - epochShift := by
  unfold ofDayOfYear monthOfYear
  rw [dayNumber_ofMarch (by omega) (by omega) (by omega)]
  simp only [dayNumberFromMarch]
  omega

/-- The rest of a day after the cycles before it is a day of a cycle. -/
theorem dayOfCycle_range (n : Int) :
    0 ≤ (n + epochShift) % daysPerCycle ∧ (n + epochShift) % daysPerCycle < 146097 := by
  simp only [daysPerCycle, epochShift]
  omega

/-- A cycle has 400 years. -/
theorem yearOfCycle_range {d : Int} (lower : 0 ≤ d) (upper : d < 146097) :
    0 ≤ yearOfCycle d ∧ yearOfCycle d ≤ 399 := by
  unfold yearOfCycle
  omega

/-- A group of 1460 days begins with the last one of a year or with the first, and a century in
the cycle with every 36 524 days. Only the last day of the cycle is not in this order. -/
theorem yearOfCycle_cases {d : Int} (lower : 0 ≤ d) (upper : d < 146096) :
    yearOfCycle d / 100 = d / 36524 ∧
      (yearOfCycle d = 4 * (d / 1460) - 1 ∨ yearOfCycle d = 4 * (d / 1460) ∨
        yearOfCycle d = 4 * (d / 1460) + 1 ∨ yearOfCycle d = 4 * (d / 1460) + 2 ∨
        yearOfCycle d = 4 * (d / 1460) + 3) := by
  have hy : yearOfCycle d = (d - d / 1460 + d / 36524 - d / 146096) / 365 := rfl
  generalize yearOfCycle d = y at *
  have hh : d / 146096 = 0 := by omega
  rw [hh] at hy
  generalize hf : d / 1460 = f at *
  generalize hg : d / 36524 = g at *
  have hyear :
      y = 4 * f - 1 ∨ y = 4 * f ∨ y = 4 * f + 1 ∨ y = 4 * f + 2 ∨ y = 4 * f + 3 := by
    omega
  have hgroup : g = 0 ∨ g = 1 ∨ g = 2 ∨ g = 3 := by omega
  have hcentury : y / 100 = g := by
    rcases hgroup with rfl | rfl | rfl | rfl <;> omega
  exact ⟨hcentury, hyear⟩

/-- What is left of a day of the cycle after the years before it is a day of a year. The last day of
the cycle is the one exception to the rule by which years are counted, so it is looked at by itself.
-/
theorem dayOfYear_range {d : Int} (lower : 0 ≤ d) (upper : d < 146097) :
    0 ≤ d - (365 * yearOfCycle d + yearOfCycle d / 4 - yearOfCycle d / 100) ∧
    d - (365 * yearOfCycle d + yearOfCycle d / 4 - yearOfCycle d / 100) ≤ 365 := by
  have hy : yearOfCycle d = (d - d / 1460 + d / 36524 - d / 146096) / 365 := rfl
  by_cases hlast : d = 146096
  · subst hlast
    decide
  · obtain ⟨hcentury, hyear⟩ := yearOfCycle_cases lower (by omega)
    rw [hcentury]
    generalize yearOfCycle d = y at *
    rcases hyear with rfl | rfl | rfl | rfl | rfl <;> omega

/-- The date of a day counts back to that day. The cycle, the year in it and the day of the year are
put together as they were taken apart. -/
theorem dayNumber_ofDayNumber (n : Int) : (ofDayNumber n).dayNumber = n := by
  have range := dayOfCycle_range n
  simp only [ofDayNumber]
  obtain ⟨y0, y1⟩ := yearOfCycle_range range.1 range.2
  obtain ⟨q0, q1⟩ := dayOfYear_range range.1 range.2
  rw [dayNumber_ofDayOfYear q0 q1]
  generalize yearOfCycle ((n + epochShift) % daysPerCycle) = y at *
  have hdiv : ((n + epochShift) / daysPerCycle * 400 + y) / 400
      = (n + epochShift) / daysPerCycle := by omega
  have hmod : ((n + epochShift) / daysPerCycle * 400 + y) % 400 = y := by omega
  rw [hdiv, hmod]
  simp only [daysPerCycle, epochShift]
  omega

end Date

end TenantSearch.Time
