/-! Dates and times of the proleptic Gregorian calendar, with an offset from universal time. -/
namespace SequenceLog

/-- A wall-clock reading and how far, in microseconds, its clock is ahead of universal time. -/
structure Moment where
  year : Nat
  month : Nat
  day : Nat
  hour : Nat
  minute : Nat
  second : Nat
  microsecond : Nat
  offset : Int
  deriving DecidableEq, Repr, Inhabited

/-- What a clock shows, and how far it is ahead of universal time if it tells. -/
structure Reading where
  year : Nat
  month : Nat
  day : Nat
  hour : Nat
  minute : Nat
  second : Nat
  microsecond : Nat
  offset : Option Int
  deriving DecidableEq, Repr, Inhabited

/-- A clock that does not tell its offset is taken to show universal time. -/
def Reading.moment (r : Reading) : Moment :=
  ⟨r.year, r.month, r.day, r.hour, r.minute, r.second, r.microsecond, r.offset.getD 0⟩

namespace Calendar

def isLeap (year : Nat) : Bool := year % 4 == 0 && (year % 100 != 0 || year % 400 == 0)

def daysInMonth (year month : Nat) : Nat :=
  match month with
  | 2 => if isLeap year then 29 else 28
  | 4 | 6 | 9 | 11 => 30
  | _ => 31

/-- The days of all years from year 1 up to the given one, which is left out. -/
def daysBeforeYear (year : Nat) : Nat :=
  let past := year - 1
  365 * past + past / 4 - past / 100 + past / 400

def daysBeforeMonth (year : Nat) : (month : Nat) → Nat
  | 0 | 1 => 0
  | month + 1 => daysBeforeMonth year month + daysInMonth year month

/-- Days are numbered from 1 for the first day of year 1. -/
def dayNumber (year month day : Nat) : Nat :=
  daysBeforeYear year + daysBeforeMonth year month + day

/-- The number of 1 January 1970. -/
def epochDay : Nat := 719163

def padded (width n : Nat) : List Char :=
  let digits := Nat.toDigits 10 n
  List.replicate (width - digits.length) '0' ++ digits

end Calendar

namespace Moment
open Calendar

def clockSeconds (m : Moment) : Nat := m.hour * 3600 + m.minute * 60 + m.second

/-- Microseconds from the start of 1970 in universal time, negative before it. -/
def microseconds (m : Moment) : Int :=
  (((dayNumber m.year m.month m.day : Int) - epochDay) * 86400 + m.clockSeconds) * 1000000 +
    m.microsecond - m.offset

/-- Whole milliseconds, rounded toward the past. -/
def milliseconds (m : Moment) : Int := m.microseconds / 1000

def dateText (m : Moment) : List Char :=
  padded 4 m.year ++ '-' :: padded 2 m.month ++ '-' :: padded 2 m.day

def clockText (hour minute second : Nat) : List Char :=
  padded 2 hour ++ ':' :: padded 2 minute ++ ':' :: padded 2 second

def fractionText (microsecond : Nat) : List Char :=
  if microsecond = 0 then [] else '.' :: padded 6 microsecond

/-- Hours and minutes of the offset, and its seconds only where there are any. -/
def offsetText (offset : Int) : List Char :=
  let size := offset.natAbs
  let seconds := size / 1000000
  let (hour, minute, second) := (seconds / 3600, seconds / 60 % 60, seconds % 60)
  let clock :=
    if size % 60000000 = 0 then padded 2 hour ++ ':' :: padded 2 minute
    else clockText hour minute second ++ fractionText (size % 1000000)
  (if offset < 0 then '-' else '+') :: clock

def isoText (m : Moment) : String :=
  String.ofList (m.dateText ++ 'T' :: clockText m.hour m.minute m.second ++
    fractionText m.microsecond ++ offsetText m.offset)

/-- The form used in plain log lines, with milliseconds after a comma. The year has no more digits
than it needs. -/
def lineText (m : Moment) : String :=
  String.ofList (Nat.toDigits 10 m.year ++ '-' :: padded 2 m.month ++ '-' :: padded 2 m.day ++
    ' ' :: clockText m.hour m.minute m.second ++
    ',' :: padded 3 (m.microsecond / 1000))

end Moment
end SequenceLog
