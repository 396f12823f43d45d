/-!
# Dates and moments

A date of the proleptic Gregorian calendar, and a moment: a date with a time of day and, optionally,
an offset from universal time in minutes. `Date.check` and `Moment.check` say which field of an
impossible date is reported: an offset of a day or more first, then the fields from the year down.

Main statement: `Date.check_eq_none_iff`, a date passes exactly if it is on the calendar.
-/

namespace Credentials

/-- A calendar date. -/
structure Date where
  year : Nat
  month : Nat
  day : Nat
  deriving DecidableEq, Repr

/-- A date with a time of day; `offset` is the distance from universal time in minutes. -/
structure Moment where
  date : Date
  hour : Nat
  minute : Nat
  second : Nat
  microsecond : Nat
  offset : Option Int
  deriving DecidableEq, Repr

/-- The field that makes a date or a moment impossible. -/
inductive CalendarFault where
  | year (year : Nat)
  | month
  | day
  | hour
  | minute
  | second
  | offset (minutes : Int)
  deriving DecidableEq, Repr

namespace Date

/-- Every fourth year is a leap year, but of the centuries only every fourth. -/
def isLeap (year : Nat) : Bool := year % 4 == 0 && (year % 100 != 0 || year % 400 == 0)

/-- The number of days of a month. -/
def daysIn (year month : Nat) : Nat :=
  if month = 2 then if isLeap year then 29 else 28
  else if month = 4 ∨ month = 6 ∨ month = 9 ∨ month = 11 then 30
  else 31

/-- The first field that is off the calendar. -/
def check (d : Date) : Option CalendarFault :=
  if d.year < 1 ∨ 9999 < d.year then some (.year d.year)
  else if d.month < 1 ∨ 12 < d.month then some .month
  else if d.day < 1 ∨ daysIn d.year d.month < d.day then some .day
  else none

theorem check_eq_none_iff (d : Date) :
    d.check = none ↔ (1 ≤ d.year ∧ d.year ≤ 9999) ∧ (1 ≤ d.month ∧ d.month ≤ 12)
      ∧ 1 ≤ d.day ∧ d.day ≤ daysIn d.year d.month := by
  unfold check
  split
  · constructor
    · simp
    · omega
  · split
    · constructor
      · simp
      · omega
    · split
      · constructor
        · simp
        · omega
      · simp only [true_iff]
        omega

/-- The days before the first of the year. -/
def daysBeforeYear (year : Nat) : Nat :=
  let y := year - 1
  y * 365 + y / 4 - y / 100 + y / 400

/-- The days of the year before the first of the month. -/
def daysBeforeMonth (year month : Nat) : Nat :=
  (List.range' 1 (month - 1)).foldl (fun days m => days + daysIn year m) 0

/-- The number of the day, counted from the first day of year one. -/
def ordinal (d : Date) : Nat := daysBeforeYear d.year + daysBeforeMonth d.year d.month + d.day

end Date

/-- A number with leading zeros up to a width. -/
def padded (width n : Nat) : String :=
  let ds := Nat.toDigits 10 n
  String.ofList (List.replicate (width - ds.length) '0' ++ ds)

/-- Year, month and day between hyphens. -/
def Date.render (d : Date) : String :=
  padded 4 d.year ++ "-" ++ padded 2 d.month ++ "-" ++ padded 2 d.day

namespace Moment

/-- The first field that makes the moment impossible. -/
def check (m : Moment) : Option CalendarFault :=
  match m.offset with
  | some minutes => if minutes.natAbs < 1440 then fields else some (.offset minutes)
  | none => fields
where
  /-- The first field of the date or the time of day that is out of range. -/
  fields : Option CalendarFault :=
    m.date.check.or <|
      if 23 < m.hour then some .hour
      else if 59 < m.minute then some .minute
      else if 59 < m.second then some .second
      else none

/-- The instant in microseconds, for comparing moments with different offsets. -/
def instant (m : Moment) : Int :=
  let minutes : Int := (m.date.ordinal * 24 + m.hour : Nat) * 60 + m.minute - m.offset.getD 0
  (minutes * 60 + m.second) * 1000000 + m.microsecond

/-- Two moments with an offset are the same if their instants are; a moment without one only equals
a moment without one. -/
def same (m n : Moment) : Bool :=
  m.offset.isSome == n.offset.isSome && m.instant == n.instant

/-- Date, separator, time of day, microseconds unless zero, and the offset. -/
def render (separator : String) (m : Moment) : String :=
  let fraction := if m.microsecond = 0 then "" else "." ++ padded 6 m.microsecond
  let zone := match m.offset with
    | none => ""
    | some minutes =>
      (if minutes < 0 then "-" else "+") ++ padded 2 (minutes.natAbs / 60) ++ ":"
        ++ padded 2 (minutes.natAbs % 60)
  m.date.render ++ separator ++ padded 2 m.hour ++ ":" ++ padded 2 m.minute ++ ":"
    ++ padded 2 m.second ++ fraction ++ zone

end Moment

namespace CalendarFault

/-- The length of an offset, in whole days and the seconds left over. -/
def duration (minutes : Int) : String :=
  let seconds := minutes * 60
  let days := seconds.fdiv 86400
  let rest := seconds.fmod 86400
  "datetime.timedelta(days=" ++ toString days
    ++ (if rest = 0 then "" else ", seconds=" ++ toString rest) ++ ")"

/-- What is reported about an impossible date. -/
def message : CalendarFault → String
  | year n => "year " ++ toString n ++ " is out of range"
  | month => "month must be in 1..12"
  | day => "day is out of range for month"
  | hour => "hour must be in 0..23"
  | minute => "minute must be in 0..59"
  | second => "second must be in 0..59"
  | offset minutes =>
    "offset must be a timedelta strictly between -timedelta(hours=24) and timedelta(hours=24), not "
      ++ duration minutes ++ "."

end CalendarFault

end Credentials
