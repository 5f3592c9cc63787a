/-!
# Instants

An `Instant` is a point of time given by its date and time of day in UTC, in the proleptic
Gregorian calendar and to the nanosecond. Second 60 is a leap second. `Instant.ofLocal?` converts a
local date and time with its offset from UTC.
-/

namespace FlowGate

/-- A date of the proleptic Gregorian calendar. -/
structure Date where
  year : Int
  month : Nat
  day : Nat
  deriving DecidableEq

/-- A time of day. -/
structure TimeOfDay where
  hour : Nat
  minute : Nat
  second : Nat
  nanosecond : Nat
  deriving DecidableEq

namespace Date

/-- Whether a year has a 29th of February. -/
def isLeapYear (year : Int) : Bool :=
  year % 4 = 0 && (year % 100 != 0 || year % 400 = 0)

/-- The number of days of a month. -/
def daysInMonth (year : Int) (month : Nat) : Nat :=
  if month = 2 then (if isLeapYear year then 29 else 28)
  else if month = 4 ∨ month = 6 ∨ month = 9 ∨ month = 11 then 30
  else 31

/-- `date.IsValid` says the date exists and its year is one the calendar covers. -/
def IsValid (date : Date) : Prop :=
  -262143 ≤ date.year ∧ date.year ≤ 262142 ∧ 1 ≤ date.month ∧ date.month ≤ 12 ∧
    1 ≤ date.day ∧ date.day ≤ daysInMonth date.year date.month

instance (date : Date) : Decidable date.IsValid := by unfold IsValid; infer_instance

/-- The day after a date. -/
def next (date : Date) : Date :=
  if date.day < daysInMonth date.year date.month then { date with day := date.day + 1 }
  else if date.month < 12 then ⟨date.year, date.month + 1, 1⟩
  else ⟨date.year + 1, 1, 1⟩

/-- The day before a date. -/
def previous (date : Date) : Date :=
  if 1 < date.day then { date with day := date.day - 1 }
  else if 1 < date.month then ⟨date.year, date.month - 1, daysInMonth date.year (date.month - 1)⟩
  else ⟨date.year - 1, 12, 31⟩

end Date

/-- `time.IsValid` says the time is one of a day that may have leap seconds. -/
def TimeOfDay.IsValid (time : TimeOfDay) : Prop :=
  time.hour < 24 ∧ time.minute < 60 ∧ time.second ≤ 60 ∧ time.nanosecond < 1000000000

instance (time : TimeOfDay) : Decidable time.IsValid := by
  unfold TimeOfDay.IsValid; infer_instance

/-- A point of time, by its date and time of day in UTC. -/
structure Instant where
  date : Date
  time : TimeOfDay
  date_valid : date.IsValid
  time_valid : time.IsValid
  deriving DecidableEq

namespace Instant

/-- The minutes of a day. -/
def minutesPerDay : Int := 1440

/-- The instant of a local date and time that is ahead of UTC by some minutes, or `none` when one
of them does not exist or the instant is outside the calendar. -/
def ofLocal? (date : Date) (time : TimeOfDay) (offset : Int) : Option Instant :=
  if date.IsValid ∧ time.IsValid then
    let minutes : Int := time.hour * 60 + time.minute - offset
    let date :=
      if minutes < 0 then date.previous
      else if minutesPerDay ≤ minutes then date.next
      else date
    let minuteOfDay := (minutes % minutesPerDay).toNat
    let time := { time with hour := minuteOfDay / 60, minute := minuteOfDay % 60 }
    if h : date.IsValid ∧ time.IsValid then some ⟨date, time, h.1, h.2⟩ else none
  else none

end Instant

end FlowGate
