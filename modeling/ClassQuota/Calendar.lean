/-!
# Dates and times

A date is a day of the Gregorian calendar in the years 1 to 9999. A time of day has microseconds
and may carry an offset from universal time in seconds.

## Main definitions

* `Date`, `TimeOfDay`, `DateTime` — the data, which may be out of range
* `Date.flaw?`, `TimeOfDay.flaw?`, `Offset.flaw?` — the first part that is out of range
* `Date.iso`, `TimeOfDay.iso`, `DateTime.iso` — the text of a date and time
* `Date.same`, `TimeOfDay.same`, `DateTime.same` — equality, of instants where offsets are known
-/

namespace ClassQuota

/-- A number written with at least `width` digits. -/
def padded (width n : Nat) : String :=
  let ds := (Nat.repr n).toList
  String.ofList (List.replicate (width - ds.length) '0' ++ ds)

/-- What is out of range in a date, a time or an offset. -/
inductive CalendarFlaw where
  | year (value : Nat)
  | month
  | day
  | hour
  | minute
  | second
  | offset (seconds : Int)
  deriving DecidableEq, Repr

/-- A day of the Gregorian calendar. -/
structure Date where
  year : Nat
  month : Nat
  day : Nat
  deriving DecidableEq, Repr

/-- A time of day, with the seconds that local time is ahead of universal time if known. -/
structure TimeOfDay where
  hour : Nat
  minute : Nat
  second : Nat
  micro : Nat
  offset : Option Int
  deriving DecidableEq, Repr

/-- A time of day on a date. -/
structure DateTime where
  date : Date
  time : TimeOfDay
  deriving DecidableEq, Repr

namespace Date

/-- Whether a year has a leap day. -/
def isLeap (year : Nat) : Bool :=
  year % 4 == 0 && (year % 100 != 0 || year % 400 == 0)

/-- The number of days of a month. -/
def daysIn (year month : Nat) : Nat :=
  match month with
  | 2 => if isLeap year then 29 else 28
  | 4 | 6 | 9 | 11 => 30
  | _ => 31

/-- The first part of a date that is out of range. -/
def flaw? (d : Date) : Option CalendarFlaw :=
  if d.year = 0 ∨ 9999 < d.year then some (.year d.year)
  else if d.month = 0 ∨ 12 < d.month then some .month
  else if d.day = 0 ∨ daysIn d.year d.month < d.day then some .day
  else none

/-- The number of days from the last day of the year 0. -/
def ordinal (d : Date) : Nat :=
  let before := d.year - 1
  let months := (List.range (d.month - 1)).foldl (fun n m => n + daysIn d.year (m + 1)) 0
  before * 365 + before / 4 - before / 100 + before / 400 + months + d.day

/-- Year, month and day, joined by hyphens. -/
def iso (d : Date) : String :=
  padded 4 d.year ++ "-" ++ padded 2 d.month ++ "-" ++ padded 2 d.day

/-- Whether two dates are one day. -/
def same (d e : Date) : Bool := d == e

end Date

namespace Offset

/-- An offset is less than a day in either direction. -/
def flaw? (seconds : Int) : Option CalendarFlaw :=
  if seconds.natAbs < 86400 then none else some (.offset seconds)

/-- An offset as signed hours and minutes, and seconds where there are any. -/
def iso (seconds : Int) : String :=
  let n := seconds.natAbs
  (if seconds < 0 then "-" else "+") ++ padded 2 (n / 3600) ++ ":" ++ padded 2 (n / 60 % 60) ++
    (if n % 60 = 0 then "" else ":" ++ padded 2 (n % 60))

end Offset

namespace TimeOfDay

/-- The first part of a time that is out of range. -/
def flaw? (t : TimeOfDay) : Option CalendarFlaw :=
  if 23 < t.hour then some .hour
  else if 59 < t.minute then some .minute
  else if 59 < t.second then some .second
  else none

/-- Hours, minutes and seconds; microseconds and the offset where there are any. -/
def iso (t : TimeOfDay) : String :=
  padded 2 t.hour ++ ":" ++ padded 2 t.minute ++ ":" ++ padded 2 t.second ++
    (if t.micro = 0 then "" else "." ++ padded 6 t.micro) ++
    (match t.offset with
      | none => ""
      | some seconds => Offset.iso seconds)

/-- The seconds since midnight, in universal time where the offset is known. -/
def seconds (t : TimeOfDay) : Int :=
  (t.hour * 3600 + t.minute * 60 + t.second : Nat) - t.offset.getD 0

/-- Whether two times are one: both with an offset, or both without. -/
def same (t u : TimeOfDay) : Bool :=
  t.offset.isSome == u.offset.isSome && t.seconds == u.seconds && t.micro == u.micro

end TimeOfDay

namespace DateTime

/-- The first part of a date and time that is out of range; the date comes first. -/
def flaw? (d : DateTime) : Option CalendarFlaw :=
  d.date.flaw? <|> d.time.flaw?

/-- The text with a given separator between the date and the time. -/
def iso (separator : String) (d : DateTime) : String :=
  d.date.iso ++ separator ++ d.time.iso

/-- The seconds since the calendar began, in universal time where the offset is known. -/
def seconds (d : DateTime) : Int :=
  (d.date.ordinal : Int) * 86400 + d.time.seconds

/-- Whether two times are one instant, or one local time where neither has an offset. -/
def same (d e : DateTime) : Bool :=
  d.time.offset.isSome == e.time.offset.isSome && d.seconds == e.seconds &&
    d.time.micro == e.time.micro

end DateTime

end ClassQuota
