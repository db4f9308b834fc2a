import Colonnade.Number.Shortest

/-!
# Dates and moments

A date is a day of the calendar with leap years every fourth year but for the centuries that
four hundred does not divide.  A moment adds a time of day and, if it is known, the zone of
the clock.  Both are checked field by field, largest field first.
-/

namespace Colonnade.Document

/-- A day of the calendar. -/
structure Date where
  year : Nat
  month : Nat
  day : Nat
  deriving DecidableEq, Repr

/-- A zone of time: how many minutes its clocks are ahead of universal time, and its name. -/
structure Zone where
  minutes : Int
  name : String
  deriving DecidableEq, Repr

/-- A time of day on a date, in a zone if it is known. -/
structure Moment where
  date : Date
  hour : Nat
  minute : Nat
  second : Nat
  micro : Nat
  zone : Option Zone
  deriving DecidableEq, Repr

/-- Why there is no such date or moment. -/
inductive DateFault where
  | year (year : Nat)
  | month
  | day
  | hour
  | minute
  | second
  | offset (minutes : Int)
  | outOfRange
  deriving DecidableEq, Repr

/-- A length of time in minutes, in days and the seconds left over. -/
def durationText (minutes : Int) : String :=
  let days := minutes / 1440
  let seconds := minutes % 1440 * 60
  let parts :=
    (if days = 0 then [] else ["days=" ++ toString days]) ++
      (if seconds = 0 then [] else ["seconds=" ++ toString seconds])
  "datetime.timedelta(" ++ (if parts.isEmpty then "0" else ", ".intercalate parts) ++ ")"

/-- The wording of a date fault. -/
def DateFault.message : DateFault → String
  | .year given => "year " ++ toString given ++ " is out of range"
  | .month => "month must be in 1..12"
  | .day => "day is out of range for month"
  | .hour => "hour must be in 0..23"
  | .minute => "minute must be in 0..59"
  | .second => "second must be in 0..59"
  | .offset minutes =>
    "offset must be a timedelta strictly between -timedelta(hours=24) and " ++
      "timedelta(hours=24), not " ++
      durationText minutes ++ "."
  | .outOfRange => "date value out of range"

/-- Whether a year has a leap day. -/
def isLeapYear (year : Nat) : Bool :=
  year % 4 = 0 && (year % 100 ≠ 0 || year % 400 = 0)

/-- How many days a month has. -/
def daysInMonth (year month : Nat) : Nat :=
  if month = 2 then (if isLeapYear year then 29 else 28)
  else if [4, 6, 9, 11].contains month then 30
  else 31

theorem daysInMonth_le (year month : Nat) : daysInMonth year month ≤ 31 := by
  unfold daysInMonth
  split
  · split <;> decide
  · split <;> decide

namespace Date

/-- A date, if it is in the calendar. -/
def make (year month day : Nat) : Except DateFault Date :=
  if year = 0 ∨ 9999 < year then .error (.year year)
  else if month = 0 ∨ 12 < month then .error .month
  else if day = 0 ∨ daysInMonth year month < day then .error .day
  else .ok ⟨year, month, day⟩

/-- The next day. -/
def next (d : Date) : Except DateFault Date :=
  if d.day < daysInMonth d.year d.month then .ok { d with day := d.day + 1 }
  else if d.month < 12 then .ok ⟨d.year, d.month + 1, 1⟩
  else if d.year < 9999 then .ok ⟨d.year + 1, 1, 1⟩
  else .error .outOfRange

/-- How many days lie before a date, counted from the first day of year one. -/
def ordinal (d : Date) : Nat :=
  let years := d.year - 1
  let months := ((List.range (d.month - 1)).map fun m => daysInMonth d.year (m + 1)).foldr (· + ·) 0
  years * 365 + years / 4 - years / 100 + years / 400 + months + (d.day - 1)

end Date

/-- A natural number with at least `width` digits. -/
def fieldText (width n : Nat) : String :=
  String.ofList (Number.paddedDigits width n)

/-- A date with hyphens between its fields. -/
def Date.text (d : Date) : String :=
  fieldText 4 d.year ++ "-" ++ fieldText 2 d.month ++ "-" ++ fieldText 2 d.day

namespace Moment

/-- A moment, if its zone is less than a day away, its date is in the calendar and its time is on
the clock. -/
def make (year month day hour minute second micro : Nat) (zone : Option Zone) :
    Except DateFault Moment := do
  match zone with
  | some z => if 1440 ≤ z.minutes.natAbs then .error (.offset z.minutes)
  | none => pure ()
  let date ← Date.make year month day
  if 23 < hour then .error .hour
  else if 59 < minute then .error .minute
  else if 59 < second then .error .second
  else .ok ⟨date, hour, minute, second, micro, zone⟩

/-- The moment one second later. -/
def nextSecond (m : Moment) : Except DateFault Moment :=
  if m.second < 59 then .ok { m with second := m.second + 1 }
  else if m.minute < 59 then .ok { m with second := 0, minute := m.minute + 1 }
  else if m.hour < 23 then .ok { m with second := 0, minute := 0, hour := m.hour + 1 }
  else m.date.next.map fun date => { m with date := date, second := 0, minute := 0, hour := 0 }

/-- The microseconds of a moment's own clock, counted from the first day of year one. -/
def clock (m : Moment) : Int :=
  (((m.date.ordinal * 24 + m.hour) * 60 + m.minute) * 60 + m.second) * 1000000 + m.micro

/-- Whether two moments are the same.  With zones they are compared in universal time. -/
def same (a b : Moment) : Bool :=
  match a.zone, b.zone with
  | none, none => a.clock == b.clock
  | some p, some q => a.clock - p.minutes * 60000000 == b.clock - q.minutes * 60000000
  | _, _ => false

/-- How far a zone is ahead, with its sign. -/
def offsetText (minutes : Int) : String :=
  (if minutes < 0 then "-" else "+") ++ fieldText 2 (minutes.natAbs / 60) ++ ":" ++
    fieldText 2 (minutes.natAbs % 60)

/-- A moment with a separator between date and time. -/
def text (separator : String) (m : Moment) : String :=
  m.date.text ++ separator ++ fieldText 2 m.hour ++ ":" ++ fieldText 2 m.minute ++ ":" ++
    fieldText 2 m.second ++ (if m.micro = 0 then "" else "." ++ fieldText 6 m.micro) ++
    (m.zone.map fun z => offsetText z.minutes).getD ""

end Moment

end Colonnade.Document
