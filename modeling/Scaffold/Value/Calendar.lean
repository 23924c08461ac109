/-!
# Dates and moments

A date of the Gregorian calendar, and a moment of a date with an optional offset from universal
time in minutes. Only existing dates and times can be built.
-/

set_option autoImplicit false

namespace Scaffold

structure Date where
  year : Nat
  month : Nat
  day : Nat
  deriving DecidableEq, Repr

/-- A time of day on a date; `offset` counts minutes east of universal time. -/
structure Moment where
  date : Date
  hour : Nat
  minute : Nat
  second : Nat
  microsecond : Nat
  offset : Option Int
  deriving DecidableEq, Repr

/-- Why parts form no date or moment. -/
inductive CalendarFault where
  | year (given : Nat)
  | month
  | day
  | hour
  | minute
  | second
  | offset (minutes : Int)
  deriving DecidableEq, Repr

private def twoDigits (number : Nat) : String :=
  if number < 10 then "0" ++ toString number else toString number

private def leadingZeros (width number : Nat) : String :=
  let digits := toString number
  String.ofList (List.replicate (width - digits.length) '0') ++ digits

private def arguments (numbers : List Nat) : String :=
  ", ".intercalate (numbers.map toString)

/-- The span of a number of minutes as whole days and the seconds beyond them. -/
private def spanText (minutes : Int) : String :=
  let days := minutes.fdiv 1440
  let seconds := (minutes.fmod 1440) * 60
  let parts :=
    (if days = 0 then [] else ["days=" ++ toString days]) ++
      (if seconds = 0 then [] else ["seconds=" ++ toString seconds])
  "datetime.timedelta(" ++ (if parts.isEmpty then "0" else ", ".intercalate parts) ++ ")"

def CalendarFault.message : CalendarFault → String
  | .year given => "year " ++ toString given ++ " is out of range"
  | .month => "month must be in 1..12"
  | .day => "day is out of range for month"
  | .hour => "hour must be in 0..23"
  | .minute => "minute must be in 0..59"
  | .second => "second must be in 0..59"
  | .offset minutes =>
    "offset must be a timedelta strictly between -timedelta(hours=24) and timedelta(hours=24), " ++
      "not " ++ spanText minutes ++ "."

def isLeapYear (year : Nat) : Bool :=
  year % 4 == 0 && (year % 100 != 0 || year % 400 == 0)

def daysInMonth (year month : Nat) : Nat :=
  if month = 2 then if isLeapYear year then 29 else 28
  else if month = 4 || month = 6 || month = 9 || month = 11 then 30
  else 31

namespace Date

def make? (year month day : Nat) : Except CalendarFault Date :=
  if year = 0 then .error (.year year)
  else if month = 0 || 12 < month then .error .month
  else if day = 0 || daysInMonth year month < day then .error .day
  else .ok ⟨year, month, day⟩

def toText (date : Date) : String :=
  leadingZeros 4 date.year ++ "-" ++ twoDigits date.month ++ "-" ++ twoDigits date.day

def quoted (date : Date) : String :=
  "datetime.date(" ++ arguments [date.year, date.month, date.day] ++ ")"

end Date

namespace Moment

def make? (year month day hour minute second microsecond : Nat) (offset : Option Int) :
    Except CalendarFault Moment := do
  let _ ← match offset with
    | some minutes =>
      if 1440 ≤ minutes.natAbs then .error (.offset minutes) else .ok ()
    | none => .ok ()
  let date ← Date.make? year month day
  if 23 < hour then .error .hour
  else if 59 < minute then .error .minute
  else if 59 < second then .error .second
  else .ok ⟨date, hour, minute, second, microsecond, offset⟩

private def offsetText (minutes : Int) : String :=
  let size := minutes.natAbs
  (if minutes < 0 then "-" else "+") ++ twoDigits (size / 60) ++ ":" ++ twoDigits (size % 60)

/-- The moment with its date and time on both sides of `separator`. -/
def toText (separator : String) (moment : Moment) : String :=
  moment.date.toText ++ separator ++ twoDigits moment.hour ++ ":" ++ twoDigits moment.minute ++
    ":" ++ twoDigits moment.second ++
    (if moment.microsecond = 0 then "" else "." ++ leadingZeros 6 moment.microsecond) ++
    match moment.offset with
    | some minutes => offsetText minutes
    | none => ""

def quoted (moment : Moment) : String :=
  let seconds :=
    if moment.microsecond ≠ 0 then [moment.second, moment.microsecond]
    else if moment.second ≠ 0 then [moment.second]
    else []
  let zone :=
    match moment.offset with
    | none => ""
    | some minutes =>
      if minutes = 0 then ", tzinfo=datetime.timezone.utc"
      else ", tzinfo=datetime.timezone(" ++ spanText minutes ++ ")"
  "datetime.datetime(" ++
    arguments ([moment.date.year, moment.date.month, moment.date.day, moment.hour, moment.minute]
      ++ seconds) ++ zone ++ ")"

end Moment

end Scaffold
