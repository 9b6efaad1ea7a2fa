import Tabular.Number.Shortest

/-!
This module holds calendar dates and moments of the day, with or without an offset from universal
time, and the count of milliseconds that stands for a moment.
-/

namespace Tabular

/-- A date of the common calendar. -/
structure Date where
  year : Nat
  month : Nat
  day : Nat
  deriving DecidableEq, Inhabited, Repr

/-- A moment is a date and a time of the day. The offset counts minutes east of universal time, and
a moment without one is taken as universal. -/
structure Moment where
  date : Date
  hour : Nat
  minute : Nat
  second : Nat
  microsecond : Nat
  offset : Option Int
  deriving DecidableEq, Inhabited, Repr

/-- A part of a date or of a time that is out of range. -/
inductive CalendarProblem where
  | year
  | month
  | day
  | hour
  | minute
  | second
  deriving DecidableEq, Repr

def CalendarProblem.message : CalendarProblem → String
  | .year => "year 0 is out of range"
  | .month => "month must be in 1..12"
  | .day => "day is out of range for month"
  | .hour => "hour must be in 0..23"
  | .minute => "minute must be in 0..59"
  | .second => "second must be in 0..59"

namespace Date

def isLeapYear (year : Nat) : Bool := year % 4 = 0 && (year % 100 ≠ 0 || year % 400 = 0)

/-- This function gives the number of days of a month. -/
def monthLength (year month : Nat) : Nat :=
  if month = 2 then (if isLeapYear year then 29 else 28)
  else if [4, 6, 9, 11].contains month then 30
  else 31

/-- This function gives the first part of a date that is out of range. -/
def problem? (date : Date) : Option CalendarProblem :=
  if date.year = 0 then some .year
  else if date.month = 0 || 12 < date.month then some .month
  else if date.day = 0 || monthLength date.year date.month < date.day then some .day
  else none

/-- This function counts the days from the first of January 1970. Years begin in March here, so
that the leap day is the last one of its year. -/
def days (date : Date) : Int :=
  let year : Int := if date.month ≤ 2 then (date.year : Int) - 1 else date.year
  let month : Int := if date.month ≤ 2 then (date.month : Int) + 9 else (date.month : Int) - 3
  let dayOfYear := (153 * month + 2) / 5 + date.day - 1
  year * 365 + year / 4 - year / 100 + year / 400 + dayOfYear - 719468

/-- This function writes at least `width` digits. -/
def padded (width n : Nat) : String :=
  let digits := Nat.toDigits 10 n
  String.ofList (List.replicate (width - digits.length) '0' ++ digits)

def toText (date : Date) : String :=
  s!"{padded 4 date.year}-{padded 2 date.month}-{padded 2 date.day}"

def literal (date : Date) : String := s!"datetime.date({date.year}, {date.month}, {date.day})"

example : problem? ⟨2024, 2, 29⟩ = none ∧ problem? ⟨2023, 2, 29⟩ = some .day := by decide

example : days ⟨1970, 1, 1⟩ = 0 ∧ days ⟨2000, 3, 1⟩ = 11017 := by decide

end Date

namespace Moment

/-- This function gives the first part of a moment that is out of range. -/
def problem? (moment : Moment) : Option CalendarProblem :=
  match moment.date.problem? with
  | some problem => some problem
  | none =>
      if 24 ≤ moment.hour then some .hour
      else if 60 ≤ moment.minute then some .minute
      else if 60 ≤ moment.second then some .second
      else none

/-- This is the first moment of a date. -/
def midnight (date : Date) : Moment := ⟨date, 0, 0, 0, 0, some 0⟩

/-- This function counts the microseconds from the start of 1970, in universal time. -/
def microseconds (moment : Moment) : Int :=
  ((moment.date.days * 24 + moment.hour) * 60 + moment.minute - moment.offset.getD 0) * 60000000
    + moment.second * 1000000 + moment.microsecond

/-- This function counts the seconds from the start of 1970 as the nearest number. -/
def seconds (moment : Moment) : Binary64 :=
  .ofRatio (moment.microseconds < 0) moment.microseconds.natAbs 1000000

/-- This function gives the milliseconds that are stored for a moment. The seconds are rounded to a
number, multiplied with rounding, and then lose their fraction. -/
def milliseconds (moment : Moment) : Int := ((moment.seconds.scale 1000).truncate?).getD 0

/-- Moments with an offset are equal when they are the same instant, and moments without one when
they read the same. -/
def same (first second : Moment) : Bool :=
  match first.offset, second.offset with
  | some _, some _ => first.microseconds == second.microseconds
  | none, none => first == second
  | _, _ => false

def offsetText (minutes : Int) : String :=
  let sign := if minutes < 0 then "-" else "+"
  s!"{sign}{Date.padded 2 (minutes.natAbs / 60)}:{Date.padded 2 (minutes.natAbs % 60)}"

def toText (moment : Moment) : String :=
  let fraction := if moment.microsecond = 0 then "" else s!".{Date.padded 6 moment.microsecond}"
  let offset := (moment.offset.map offsetText).getD ""
  s!"{moment.date.toText} {Date.padded 2 moment.hour}:{Date.padded 2 moment.minute}:" ++
    s!"{Date.padded 2 moment.second}{fraction}{offset}"

def offsetLiteral (minutes : Int) : String :=
  if minutes = 0 then ", tzinfo=datetime.timezone.utc"
  else
    let seconds := minutes * 60
    let span := if seconds < 0 then s!"days=-1, seconds={seconds + 86400}" else s!"seconds={seconds}"
    s!", tzinfo=datetime.timezone(datetime.timedelta({span}))"

def literal (moment : Moment) : String :=
  let date := moment.date
  let second :=
    if moment.second = 0 ∧ moment.microsecond = 0 then "" else s!", {moment.second}"
  let microsecond := if moment.microsecond = 0 then "" else s!", {moment.microsecond}"
  let offset := (moment.offset.map offsetLiteral).getD ""
  s!"datetime.datetime({date.year}, {date.month}, {date.day}, {moment.hour}, {moment.minute}" ++
    s!"{second}{microsecond}{offset})"

example : milliseconds ⟨⟨2020, 1, 1⟩, 0, 0, 0, 1500, none⟩ = 1577836800001 := by decide +kernel

end Moment

end Tabular
