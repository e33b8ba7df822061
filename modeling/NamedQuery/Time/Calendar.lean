import NamedQuery.Number.Decimal

/-!
# Dates, times and durations

Calendar values with their written forms.  A time of day may carry an offset from universal time;
two moments with offsets are compared as instants.
-/

namespace NamedQuery

/-- `n` with zeros in front, at least `width` digits. -/
def padded (width n : Nat) : String :=
  let ds := Double.digitChars n
  String.ofList (List.replicate (width - ds.length) '0' ++ ds)

structure Date where
  year : Nat
  month : Nat
  day : Nat
deriving DecidableEq, Repr

structure Duration where
  microseconds : Int
deriving DecidableEq, Repr

namespace Duration

def dayLength : Int := 86400000000

/-- Whole days, rounded down. -/
def days (d : Duration) : Int := d.microseconds.fdiv dayLength

/-- Seconds after the whole days. -/
def secondsOfDay (d : Duration) : Nat := ((d.microseconds.fmod dayLength) / 1000000).toNat

def fraction (d : Duration) : Nat := (d.microseconds.fmod 1000000).toNat

/-- The length in seconds, as the nearest double. -/
def seconds (d : Duration) : Double :=
  Double.ofRatio (d.microseconds < 0) d.microseconds.natAbs 1000000

/-- Days, if there are any, and the rest as hours, minutes and seconds. -/
def toText (d : Duration) : String :=
  let s := d.secondsOfDay
  let clock := toString (s / 3600) ++ ":" ++ padded 2 (s / 60 % 60) ++ ":" ++ padded 2 (s % 60)
  let fraction := if d.fraction = 0 then "" else "." ++ padded 6 d.fraction
  let days :=
    if d.days = 0 then ""
    else toString d.days ++ (if d.days.natAbs = 1 then " day, " else " days, ")
  days ++ clock ++ fraction

def display (d : Duration) : String :=
  let part (name : String) (n : Int) := if n = 0 then [] else [name ++ "=" ++ toString n]
  let parts := part "days" d.days ++ part "seconds" d.secondsOfDay ++
    part "microseconds" d.fraction
  "datetime.timedelta(" ++ (if parts.isEmpty then "0" else String.intercalate ", " parts) ++ ")"

end Duration

inductive CalendarFault where
  | malformed (written : String)
  | year (n : Nat)
  | month
  | day
  | hour
  | minute
  | second
  | offset (east : Duration)
  /-- A sum lies before the first or after the last day. -/
  | dateRange
  | durationRange (days : Int)
deriving DecidableEq, Repr

namespace CalendarFault

/-- Numbers of days are words of 32 bits, from minus this number on and below it. -/
def wordLimit : Int := 0x80000000

def message : CalendarFault → String
  | malformed written => "Invalid isoformat string: " ++ Text.quoted written
  | year n => "year " ++ toString n ++ " is out of range"
  | month => "month must be in 1..12"
  | day => "day is out of range for month"
  | hour => "hour must be in 0..23"
  | minute => "minute must be in 0..59"
  | second => "second must be in 0..59"
  | offset east =>
    "offset must be a timedelta strictly between -timedelta(hours=24) and " ++
      "timedelta(hours=24), not " ++ east.display ++ "."
  | dateRange => "date value out of range"
  | durationRange days =>
    if -wordLimit ≤ days && days < wordLimit then
      "days=" ++ toString days ++ "; must have magnitude <= 999999999"
    else "Python int too large to convert to C int"

/-- Whether a sum is too large, and not a part of a date or a time. -/
def isOverflow : CalendarFault → Bool
  | dateRange => true
  | durationRange _ => true
  | _ => false

end CalendarFault

/-- The value, unless the condition fails. -/
def inRange {α : Type} (condition : Bool) (fault : CalendarFault) (a : α) :
    Except CalendarFault α :=
  if condition then .ok a else .error fault

namespace Duration

/-- The greatest number of days in a length of time, and in one that goes back. -/
def dayLimit : Nat := 999999999

/-- A length of time that is not too long. -/
def make (microseconds : Int) : Except CalendarFault Duration :=
  let d : Duration := ⟨microseconds⟩
  inRange (d.days.natAbs ≤ dayLimit) (.durationRange d.days) d

end Duration

namespace Date

/-- The last year that has dates. -/
def lastYear : Nat := 9999

def toText (d : Date) : String :=
  padded 4 d.year ++ "-" ++ padded 2 d.month ++ "-" ++ padded 2 d.day

def isLeapYear (year : Nat) : Bool :=
  year % 4 = 0 && (year % 100 ≠ 0 || year % 400 = 0)

def daysInMonth (year month : Nat) : Nat :=
  if month = 2 then (if isLeapYear year then 29 else 28)
  else if month = 4 || month = 6 || month = 9 || month = 11 then 30 else 31

/-- Days before a month of a year. -/
def daysBefore (year : Nat) : Nat → Nat
  | 0 => 0
  | month + 1 => daysBefore year month + (if month = 0 then 0 else daysInMonth year month)

def daysBeforeYear (year : Nat) : Nat :=
  let y := year - 1
  365 * y + y / 4 - y / 100 + y / 400

/-- Days since the first day of year 1, which counts as one. -/
def dayNumber (d : Date) : Nat := daysBeforeYear d.year + daysBefore d.year d.month + d.day

def make (year month day : Nat) : Except CalendarFault Date := do
  inRange (1 ≤ year && year ≤ lastYear) (.year year) ()
  inRange (1 ≤ month && month ≤ 12) .month ()
  inRange (1 ≤ day && day ≤ daysInMonth year month) .day ⟨year, month, day⟩

/-- The month and its day for a day of a year, where `month` is known to be reached. -/
def monthAndDay (year day : Nat) : Nat → Nat × Nat
  | 0 => (1, day)
  | month + 1 =>
    if daysBefore year (month + 1) < day then (month + 1, day - daysBefore year (month + 1))
    else monthAndDay year day month

/-- The date with a day number. -/
def ofDayNumber (n : Nat) : Date :=
  let guess := (n - 1) * 400 / 146097 + 1
  let year :=
    if daysBeforeYear (guess + 1) < n then guess + 1
    else if n ≤ daysBeforeYear guess then guess - 1 else guess
  let (month, day) := monthAndDay year (n - daysBeforeYear year) 12
  ⟨year, month, day⟩

/-- The day number of the last date. -/
def lastDayNumber : Nat := 3652059

/-- The date that lies a number of days later. -/
def addDays (d : Date) (days : Int) : Except CalendarFault Date :=
  let n := d.dayNumber + days
  inRange (1 ≤ n && n ≤ lastDayNumber) .dateRange (ofDayNumber n.toNat)

/-- The day of the week, from zero for Monday on. -/
def weekday (d : Date) : Nat := (d.dayNumber + 6) % 7

/-- The day number of the Monday of the first week, the one with the first Thursday. -/
def firstMonday (year : Nat) : Int :=
  let first : Date := ⟨year, 1, 1⟩
  let monday := (first.dayNumber : Int) - first.weekday
  if 3 < first.weekday then monday + 7 else monday

/-- Whether a year has a week with this number. -/
def hasWeek (year week : Nat) : Bool :=
  let first := weekday ⟨year, 1, 1⟩
  1 ≤ week &&
    (week ≤ 52 || (week = 53 && (first = 3 || (first = 2 && isLeapYear year))))

/-- The date of a day in a week of a year. -/
def ofWeek? (year week day : Nat) : Option Date :=
  if hasWeek year week && 1 ≤ day && day ≤ 7 then
    some (ofDayNumber (firstMonday year + ((week : Int) - 1) * 7 + (day : Int) - 1).toNat)
  else none

end Date

structure Offset where
  east : Duration
deriving DecidableEq, Repr

namespace Offset

/-- An offset of less than a day. -/
def make (east : Duration) : Except CalendarFault Offset :=
  inRange (east.microseconds.natAbs < Duration.dayLength.natAbs) (.offset east) ⟨east⟩

/-- Hours and minutes with a sign; seconds and their fraction only if there are any. -/
def toText (o : Offset) : String :=
  let n := o.east.microseconds.natAbs
  let s := n / 1000000
  let sign := if o.east.microseconds < 0 then "-" else "+"
  let rest :=
    if n % 1000000 ≠ 0 then ":" ++ padded 2 (s % 60) ++ "." ++ padded 6 (n % 1000000)
    else if s % 60 ≠ 0 then ":" ++ padded 2 (s % 60) else ""
  sign ++ padded 2 (s / 3600) ++ ":" ++ padded 2 (s / 60 % 60) ++ rest

end Offset

structure Clock where
  hour : Nat
  minute : Nat
  second : Nat
  microsecond : Nat
  offset : Option Offset
deriving DecidableEq, Repr

namespace Clock

def make (hour minute second microsecond : Nat) (offset : Option Offset) :
    Except CalendarFault Clock := do
  inRange (hour < 24) .hour ()
  inRange (minute < 60) .minute ()
  inRange (second < 60) .second ⟨hour, minute, second, microsecond, offset⟩

def hourMinuteSecond (t : Clock) : String :=
  padded 2 t.hour ++ ":" ++ padded 2 t.minute ++ ":" ++ padded 2 t.second

/-- The fraction of the second, written only if there is one. -/
def fractionText (t : Clock) : String :=
  if t.microsecond = 0 then "" else "." ++ padded 6 t.microsecond

def offsetText (t : Clock) : String :=
  match t.offset with
  | some o => o.toText
  | none => ""

def toText (t : Clock) : String := t.hourMinuteSecond ++ t.fractionText ++ t.offsetText

/-- Microseconds since midnight, by the clock. -/
def sinceMidnight (t : Clock) : Int :=
  ((t.hour * 60 + t.minute) * 60 + t.second) * 1000000 + t.microsecond

/-- The time of day this many microseconds after midnight. -/
def ofMicroseconds (n : Nat) (offset : Option Offset) : Clock :=
  let s := n / 1000000
  ⟨s / 3600, s / 60 % 60, s % 60, n % 1000000, offset⟩

/-- Microseconds since midnight, universal time if there is an offset. -/
def instant (t : Clock) : Int :=
  match t.offset with
  | some o => t.sinceMidnight - o.east.microseconds
  | none => t.sinceMidnight

end Clock

structure Moment where
  date : Date
  clock : Clock
deriving DecidableEq, Repr

namespace Moment

def toText (m : Moment) : String := m.date.toText ++ " " ++ m.clock.toText

/-- Microseconds since the first midnight of the calendar. -/
def instant (m : Moment) : Int := m.date.dayNumber * Duration.dayLength + m.clock.instant

/-- The moment that lies a length of time later. -/
def add (m : Moment) (d : Duration) : Except CalendarFault Moment := do
  let shifted : Duration := ⟨m.clock.sinceMidnight + d.microseconds⟩
  let date ← m.date.addDays shifted.days
  .ok ⟨date, Clock.ofMicroseconds
    (shifted.microseconds.fmod Duration.dayLength).toNat m.clock.offset⟩

end Moment

end NamedQuery
