/-!
# Dates and moments

Dates of the Gregorian calendar and moments of a day, with or without an
offset from universal time, and their texts.
-/

namespace Tablesmith

/-- A date. -/
structure Date where
  year : Nat
  month : Nat
  day : Nat
  deriving DecidableEq, Repr

/-- A date and a time of day, with an offset from universal time in seconds
if it has one. -/
structure Moment where
  date : Date
  hour : Nat
  minute : Nat
  second : Nat
  micro : Nat
  offset : Option Int
  deriving DecidableEq, Repr

/-- Why numbers are no date or moment. -/
inductive CalendarFault where
  | year (year : Nat)
  | month
  | day
  | hour
  | minute
  | second
  | offset (seconds : Int)
  deriving DecidableEq, Repr

/-- A number with at least the given number of digits. -/
def paddedNumber (width n : Nat) : String :=
  let digits := toString n
  String.ofList (List.replicate (width - digits.length) '0') ++ digits

/-- A span of time as a number of days and of seconds within a day. -/
def spanInspect (seconds : Int) : String :=
  let days := Int.fdiv seconds 86400
  let rest := Int.fmod seconds 86400
  let parts :=
    (if days = 0 then [] else ["days=" ++ toString days]) ++
      (if rest = 0 then [] else ["seconds=" ++ toString rest])
  let inside := if parts.isEmpty then "0" else String.intercalate ", " parts
  "datetime.timedelta(" ++ inside ++ ")"

def CalendarFault.message : CalendarFault → String
  | .year y => "year " ++ toString y ++ " is out of range"
  | .month => "month must be in 1..12"
  | .day => "day is out of range for month"
  | .hour => "hour must be in 0..23"
  | .minute => "minute must be in 0..59"
  | .second => "second must be in 0..59"
  | .offset seconds =>
    "offset must be a timedelta strictly between -timedelta(hours=24) and " ++
      "timedelta(hours=24), not " ++ spanInspect seconds ++ "."

/-- Whether a year has a twenty-ninth of February. -/
def isLeapYear (year : Nat) : Bool :=
  year % 4 = 0 && (year % 100 ≠ 0 || year % 400 = 0)

def daysInMonth (year month : Nat) : Nat :=
  if month = 2 then (if isLeapYear year then 29 else 28)
  else if [4, 6, 9, 11].contains month then 30
  else 31

/-- The date with the given numbers, if there is one. -/
def Date.of (year month day : Nat) : Except CalendarFault Date :=
  if year = 0 || 9999 < year then .error (.year year)
  else if month = 0 || 12 < month then .error .month
  else if day = 0 || daysInMonth year month < day then .error .day
  else .ok ⟨year, month, day⟩

/-- The offset of the given number of seconds, less than a day either way. -/
def offsetOf (seconds : Int) : Except CalendarFault Int :=
  if -86400 < seconds && seconds < 86400 then .ok seconds
  else .error (.offset seconds)

/-- The moment of a date with the given time of day, if there is one. -/
def Moment.of
    (date : Date)
    (hour minute second micro : Nat)
    (offset : Option Int) :
    Except CalendarFault Moment :=
  if 23 < hour then .error .hour
  else if 59 < minute then .error .minute
  else if 59 < second then .error .second
  else .ok ⟨date, hour, minute, second, micro, offset⟩

/-- The number of days from the start of the calendar to a date. -/
def Date.dayNumber (d : Date) : Nat :=
  let before := d.year - 1
  let yearDays := before * 365 + before / 4 - before / 100 + before / 400
  let monthDays :=
    (List.range (d.month - 1)).foldl
      (fun total m => total + daysInMonth d.year (m + 1)) 0
  yearDays + monthDays + d.day

/-- The microseconds since the start of the calendar, in universal time for a
moment with an offset. -/
def Moment.instant (m : Moment) : Int :=
  let seconds : Int :=
    (m.date.dayNumber * 86400 + m.hour * 3600 + m.minute * 60 + m.second : Nat)
  (seconds - m.offset.getD 0) * 1000000 + m.micro

/-- Whether two moments are the same: by their instant if both have an offset,
by their numbers if neither has one. -/
def Moment.same (a b : Moment) : Bool :=
  a.offset.isSome = b.offset.isSome && a.instant = b.instant

def Date.text (d : Date) : String :=
  paddedNumber 4 d.year ++ "-" ++ paddedNumber 2 d.month ++ "-" ++
    paddedNumber 2 d.day

/-- The date as a call that makes it. -/
def Date.inspect (d : Date) : String :=
  "datetime.date(" ++
    String.intercalate ", " [toString d.year, toString d.month, toString d.day]
    ++ ")"

def offsetText (seconds : Int) : String :=
  let n := seconds.natAbs
  (if seconds < 0 then "-" else "+") ++ paddedNumber 2 (n / 3600) ++ ":" ++
    paddedNumber 2 (n / 60 % 60) ++
    (if n % 60 = 0 then "" else ":" ++ paddedNumber 2 (n % 60))

def Moment.text (m : Moment) : String :=
  m.date.text ++ " " ++ paddedNumber 2 m.hour ++ ":" ++
    paddedNumber 2 m.minute ++ ":" ++ paddedNumber 2 m.second ++
    (if m.micro = 0 then "" else "." ++ paddedNumber 6 m.micro) ++
    (match m.offset with
      | none => ""
      | some seconds => offsetText seconds)

/-- The offset as a call that makes it. -/
def offsetInspect (seconds : Int) : String :=
  if seconds = 0 then "datetime.timezone.utc"
  else "datetime.timezone(" ++ spanInspect seconds ++ ")"

/-- The moment as a call that makes it; seconds and microseconds are left out
when everything from there on is zero. -/
def Moment.inspect (m : Moment) : String :=
  let tail :=
    if m.micro ≠ 0 then [m.second, m.micro]
    else if m.second ≠ 0 then [m.second]
    else []
  let numbers :=
    [m.date.year, m.date.month, m.date.day, m.hour, m.minute] ++ tail
  "datetime.datetime(" ++ String.intercalate ", " (numbers.map toString) ++
    (match m.offset with
      | none => ""
      | some seconds => ", tzinfo=" ++ offsetInspect seconds) ++ ")"

end Tablesmith
