import Latchkey.Time.Instant
/-!
# The proleptic Gregorian calendar

Dates as year, month and day, and their count of days from 1970-01-01. The year starts in March
inside the conversion, so that the leap day is the last day of a year, and 400 years are a cycle of
146097 days.
-/

namespace Latchkey

/-- A date of the proleptic Gregorian calendar. -/
structure Date where
  year : Int
  month : Nat
  day : Nat
deriving DecidableEq

namespace Date

def isLeapYear (year : Int) : Bool :=
  year % 4 == 0 && (year % 100 != 0 || year % 400 == 0)

/-- Days in a month; none in a month that does not exist. -/
def monthLength (year : Int) (month : Nat) : Nat :=
  match month with
  | 1 | 3 | 5 | 7 | 8 | 10 | 12 => 31
  | 4 | 6 | 9 | 11 => 30
  | 2 => if isLeapYear year then 29 else 28
  | _ => 0

def Valid (d : Date) : Prop := 1 ≤ d.day ∧ d.day ≤ monthLength d.year d.month

instance (d : Date) : Decidable d.Valid := inferInstanceAs (Decidable (_ ∧ _))

/-- Days from 1970-01-01 to the date. -/
def toDays (d : Date) : Int :=
  let year := if d.month ≤ 2 then d.year - 1 else d.year
  let cycle := year / 400
  let yearOfCycle := year % 400
  let marchMonth : Int := ((d.month + 9) % 12 : Nat)
  let dayOfYear := (153 * marchMonth + 2) / 5 + d.day - 1
  let dayOfCycle := yearOfCycle * 365 + yearOfCycle / 4 - yearOfCycle / 100 + dayOfYear
  cycle * 146097 + dayOfCycle - 719468

/-- The date a number of days after 1970-01-01. -/
def ofDays (days : Int) : Date :=
  let shifted := days + 719468
  let cycle := shifted / 146097
  let dayOfCycle := shifted % 146097
  let yearOfCycle :=
    (dayOfCycle - dayOfCycle / 1460 + dayOfCycle / 36524 - dayOfCycle / 146096) / 365
  let dayOfYear := dayOfCycle - (365 * yearOfCycle + yearOfCycle / 4 - yearOfCycle / 100)
  let marchMonth := (5 * dayOfYear + 2) / 153
  let day := (dayOfYear - (153 * marchMonth + 2) / 5 + 1).toNat
  let month := if marchMonth < 10 then marchMonth + 3 else marchMonth - 9
  let year := yearOfCycle + cycle * 400
  ⟨if month ≤ 2 then year + 1 else year, month.toNat, day⟩

end Date

/-- A date with a time of day, to the nanosecond. Second 60 is a leap second. -/
structure DateTime where
  date : Date
  hour : Nat
  minute : Nat
  second : Nat
  nano : Nat
deriving DecidableEq

namespace DateTime

/-- The instant at which a clock that is some minutes ahead of universal time shows this date and
time, if both are in range. A leap second goes on from the second before it. -/
def instant? (t : DateTime) (ahead : Int) : Option Instant :=
  let leap := t.second / 60
  let ofDay := (t.hour * 60 + t.minute) * 60 + (t.second - leap)
  let shown := t.date.toDays * 86400 + ofDay
  if earliestSecond ≤ shown ∧ shown ≤ latestSecond then
    Instant.ofSecond? (shown - ahead * 60) (t.nano + leap * 1000000000)
  else none

/-- The date and time shown at an instant. -/
def ofInstant (t : Instant) : DateTime :=
  let ofDay := t.secondOfDay.toNat
  { date := .ofDays (t.second / 86400)
    hour := ofDay / 3600
    minute := ofDay / 60 % 60
    second := ofDay % 60 + t.nanos / 1000000000
    nano := t.nanos % 1000000000 }

end DateTime

end Latchkey
