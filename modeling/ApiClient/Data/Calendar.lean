/-! Calendar days and moments, as far as data formats write them down. A moment may know its offset
from universal time, in seconds. -/

namespace ApiClient

structure Date where
  year : Nat
  month : Nat
  day : Nat
  deriving DecidableEq, Repr

structure Moment where
  date : Date
  hour : Nat
  minute : Nat
  second : Nat
  microsecond : Nat
  offset : Option Int
  deriving DecidableEq, Repr

/-- A time of day, on no day in particular. -/
structure Clock where
  hour : Nat
  minute : Nat
  second : Nat
  microsecond : Nat
  deriving DecidableEq, Repr

/-! ## Validity -/

inductive CalendarFault where
  | year (value : Nat)
  | month
  | day
  | hour
  | minute
  | second
  | offset (days seconds : Int)
  deriving DecidableEq, Repr

def isLeapYear (year : Nat) : Bool :=
  year % 4 == 0 && (year % 100 != 0 || year % 400 == 0)

def daysInMonth (year month : Nat) : Nat :=
  if month = 2 then (if isLeapYear year then 29 else 28)
  else if month = 4 ∨ month = 6 ∨ month = 9 ∨ month = 11 then 30
  else 31

def Date.checked (year month day : Nat) : Except CalendarFault Date :=
  if year < 1 ∨ year > 9999 then .error (.year year)
  else if month < 1 ∨ month > 12 then .error .month
  else if day < 1 ∨ day > daysInMonth year month then .error .day
  else .ok ⟨year, month, day⟩

example : Date.checked 2023 2 29 = .error .day := rfl

/-- An offset is less than a whole day. -/
def checkedOffset (seconds : Int) : Except CalendarFault Int :=
  if -86400 < seconds ∧ seconds < 86400 then .ok seconds
  else .error (.offset (seconds / 86400) (seconds % 86400))

def Moment.checked (year month day hour minute second microsecond : Nat) (offset : Option Int) :
    Except CalendarFault Moment := do
  let date ← Date.checked year month day
  if hour > 23 then throw .hour
  if minute > 59 then throw .minute
  if second > 59 then throw .second
  return ⟨date, hour, minute, second, microsecond, offset⟩

/-- A length of time as days and the seconds left over, the seconds never negative. -/
def durationShown (days seconds : Int) : String :=
  let days' := if days = 0 then [] else ["days=" ++ toString days]
  let seconds' := if seconds = 0 then [] else ["seconds=" ++ toString seconds]
  let parts := days' ++ seconds'
  "datetime.timedelta(" ++ (if parts.isEmpty then "0" else ", ".intercalate parts) ++ ")"

def CalendarFault.message : CalendarFault → String
  | .year value => "year " ++ toString value ++ " is out of range"
  | .month => "month must be in 1..12"
  | .day => "day is out of range for month"
  | .hour => "hour must be in 0..23"
  | .minute => "minute must be in 0..59"
  | .second => "second must be in 0..59"
  | .offset days seconds =>
    "offset must be a timedelta strictly between -timedelta(hours=24) and timedelta(hours=24), not "
      ++ durationShown days seconds ++ "."

/-! ## Text -/

/-- A number with zeros in front of it up to a width. -/
def padded (width n : Nat) : String :=
  let digits := Nat.toDigits 10 n
  String.ofList (List.replicate (width - digits.length) '0' ++ digits)

def Date.text (date : Date) : String :=
  padded 4 date.year ++ "-" ++ padded 2 date.month ++ "-" ++ padded 2 date.day

def offsetText (offset : Int) : String :=
  let size := offset.natAbs
  let seconds := if size % 60 = 0 then "" else ":" ++ padded 2 (size % 60)
  (if offset < 0 then "-" else "+") ++ padded 2 (size / 3600) ++ ":" ++ padded 2 (size / 60 % 60) ++
    seconds

def Clock.text (clock : Clock) : String :=
  let fraction := if clock.microsecond = 0 then "" else "." ++ padded 6 clock.microsecond
  padded 2 clock.hour ++ ":" ++ padded 2 clock.minute ++ ":" ++ padded 2 clock.second ++ fraction

def Moment.clock (moment : Moment) : Clock :=
  ⟨moment.hour, moment.minute, moment.second, moment.microsecond⟩

def Moment.text (moment : Moment) : String :=
  moment.date.text ++ " " ++ moment.clock.text ++ (moment.offset.map offsetText).getD ""

/-! ## Instants -/

/-- Days since the first day of year one. -/
def Date.number (date : Date) : Nat :=
  let before := date.year - 1
  let months := (List.range (date.month - 1)).foldl
    (fun days month => days + daysInMonth date.year (month + 1)) 0
  before * 365 + before / 4 - before / 100 + before / 400 + months + (date.day - 1)

/-- Microseconds since the first day of year one, by the clock of offset zero. -/
def Moment.instant (moment : Moment) : Int :=
  let seconds : Int :=
    moment.date.number * 86400 + moment.hour * 3600 + moment.minute * 60 + moment.second
  (seconds - moment.offset.getD 0) * 1000000 + moment.microsecond

end ApiClient
