import Colonnade.Document.Date

/-!
# Clock readings

A clock counts microseconds from the first moment of the year 1970.  `Moment.ofClock` is the
moment of a count, in universal time: whole years are taken off first, then whole months.
-/

namespace Colonnade.Document

/-- How many days a year has. -/
def daysInYear (year : Nat) : Nat := if isLeapYear year then 366 else 365

theorem daysInYear_pos (year : Nat) : 0 < daysInYear year := by
  unfold daysInYear
  split <;> decide

/-- The year of a day that is counted from the first day of a given year, and the number of the
day in its year. -/
def yearOfDay (year days : Nat) : Nat × Nat :=
  if days < daysInYear year then (year, days)
  else yearOfDay (year + 1) (days - daysInYear year)
termination_by days
decreasing_by
  have := daysInYear_pos year
  omega

/-- A day of a year is one of its days. -/
theorem yearOfDay_lt (year days : Nat) :
    (yearOfDay year days).2 < daysInYear (yearOfDay year days).1 := by
  fun_induction yearOfDay year days with
  | case1 year days h => exact h
  | case2 year days h ih => exact ih

/-- The month of a day that is counted from the first day of the first of some months, and the
number of the day in its month. -/
def monthOfDay (year days : Nat) : List Nat → Nat × Nat
  | [] => (12, days)
  | month :: rest =>
    if days < daysInMonth year month then (month, days)
    else monthOfDay year (days - daysInMonth year month) rest

/-- The date of a day, counted from the first day of 1970. -/
def Date.ofDay (days : Nat) : Date :=
  let (year, days) := yearOfDay 1970 days
  let (month, days) := monthOfDay year days [1, 2, 3, 4, 5, 6, 7, 8, 9, 10, 11, 12]
  ⟨year, month, days + 1⟩

/-- The moment of a clock reading. -/
def Moment.ofClock (micros : Nat) : Moment :=
  let seconds := micros / 1000000
  { date := Date.ofDay (seconds / 86400)
    hour := seconds / 3600 % 24
    minute := seconds / 60 % 60
    second := seconds % 60
    micro := micros % 1000000
    zone := some ⟨0, "UTC"⟩ }

end Colonnade.Document
