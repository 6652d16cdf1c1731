/-!
# The calendar

Days are counted from 1970-01-01 in the Gregorian calendar, extended in both directions.

* `Date` — year, month and day.
* `Date.toDays`, `Date.ofDays` — the count of days, and back.
* `Instant` — seconds and nanoseconds since the start of 1970, with the offset it was written in.
-/

set_option autoImplicit false

namespace Shapewright
namespace Time

/-- A calendar date. -/
structure Date where
  year : Int
  month : Nat
  day : Nat
  deriving DecidableEq, Repr

/-- Whether a year has a leap day. -/
def isLeap (year : Int) : Bool :=
  year % 4 == 0 && (year % 100 != 0 || year % 400 == 0)

/-- The number of days of a month. -/
def daysIn (year : Int) (month : Nat) : Nat :=
  match month with
  | 2 => if isLeap year then 29 else 28
  | 4 | 6 | 9 | 11 => 30
  | _ => 31

/-- Whether the month and the day exist. -/
def Date.isValid (d : Date) : Bool :=
  1 ≤ d.month && d.month ≤ 12 && 1 ≤ d.day && d.day ≤ daysIn d.year d.month

/-- Days since 1970-01-01. The year is taken to begin in March, so that a leap day is its last. -/
def Date.toDays (d : Date) : Int :=
  let y := if d.month ≤ 2 then d.year - 1 else d.year
  let m : Int := if d.month ≤ 2 then d.month + 9 else d.month - 3
  let era := y.fdiv 400
  let yearOfEra := y - era * 400
  let dayOfYear := (153 * m + 2) / 5 + d.day - 1
  let dayOfEra := yearOfEra * 365 + yearOfEra / 4 - yearOfEra / 100 + dayOfYear
  era * 146097 + dayOfEra - 719468

/-- The date that is `days` after 1970-01-01. -/
def Date.ofDays (days : Int) : Date :=
  let z := days + 719468
  let era := z.fdiv 146097
  let dayOfEra := z - era * 146097
  let yearOfEra := (dayOfEra - dayOfEra / 1460 + dayOfEra / 36524 - dayOfEra / 146096) / 365
  let dayOfYear := dayOfEra - (365 * yearOfEra + yearOfEra / 4 - yearOfEra / 100)
  let m := (5 * dayOfYear + 2) / 153
  let day := dayOfYear - (153 * m + 2) / 5 + 1
  let month := if m < 10 then m + 3 else m - 9
  let year := yearOfEra + era * 400
  ⟨if month ≤ 2 then year + 1 else year, month.toNat, day.toNat⟩

/-- The day of the week, counted from Sunday; 1970-01-01 was a Thursday. -/
def weekday (days : Int) : Nat :=
  ((days + 4) % 7).toNat

/-- A point in time, with the offset from UTC in which it was written. -/
structure Instant where
  /-- Whole seconds since the start of 1970 in UTC. -/
  seconds : Int
  nanos : Nat := 0
  /-- Seconds east of UTC. -/
  offset : Int := 0
  deriving DecidableEq, Repr

instance : Inhabited Instant := ⟨{ seconds := 0 }⟩

/-- The first second of the calendar, that of March in the year −292277022400. -/
def calendarStart : Int := -9223372028741760000

/-- The second at which an instant stands in the calendar. Seconds are words of 64 bits, so one before
the start of the calendar stands behind all others. -/
def Instant.calendarSeconds (t : Instant) : Int :=
  if t.seconds < calendarStart then t.seconds + Nat.pow 2 64 else t.seconds

end Time
end Shapewright
