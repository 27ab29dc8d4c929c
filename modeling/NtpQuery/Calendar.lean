import NtpQuery.Text.Padding

/-!
# Calendar

A time in Unix milliseconds as a date and a time of day in the Gregorian
calendar and UTC. Only the years 1 to 9999 have a date.
-/

namespace NtpQuery

structure DateTime where
  year : Nat
  month : Nat
  day : Nat
  hour : Nat
  minute : Nat
  second : Nat
  millisecond : Nat
  deriving DecidableEq, Repr

namespace DateTime

def isLeap (year : Nat) : Bool :=
  year % 4 = 0 && (year % 100 ≠ 0 || year % 400 = 0)

/-- Days of the years before the given one, counted from the year 1. -/
def daysBeforeYear (year : Nat) : Nat :=
  let y := year - 1
  y * 365 + y / 4 - y / 100 + y / 400

def monthLengths (year : Nat) : List Nat :=
  [31, if isLeap year then 29 else 28, 31, 30, 31, 30, 31, 31, 30, 31, 30, 31]

/-- Month and day, both from 1, of a day of the year that is counted from 0. -/
def monthDay : (month : Nat) → (lengths : List Nat) → (day : Nat) → Nat × Nat
  | month, [], day => (month, day + 1)
  | month, length :: rest, day =>
    if day < length then (month, day + 1) else monthDay (month + 1) rest (day - length)

/-- The day on which Unix time starts, counted from the first day of the year 1. -/
def unixDay : Int := 719162

def ofUnixMs? (ms : Int) : Option DateTime :=
  let day := ms / 86400000 + unixDay
  let rest := (ms % 86400000).toNat
  if day < 0 ∨ daysBeforeYear 10000 ≤ day then none
  else
    let day := day.toNat
    let guess := day / 366 + 1
    let year := (List.range (guess / 400 + 3)).foldl
      (fun year _ => if daysBeforeYear (year + 1) ≤ day then year + 1 else year) guess
    let (month, dayOfMonth) := monthDay 1 (monthLengths year) (day - daysBeforeYear year)
    some
      { year, month
        day := dayOfMonth
        hour := rest / 3600000
        minute := rest / 60000 % 60
        second := rest / 1000 % 60
        millisecond := rest % 1000 }

def twoDigits (n : Nat) : String := Text.zeroPadded 2 n

/-- Date and time without separators, as in names of log sessions. -/
def compact (t : DateTime) : String :=
  toString t.year ++ twoDigits t.month ++ twoDigits t.day ++ "_" ++
    twoDigits t.hour ++ twoDigits t.minute ++ twoDigits t.second

/-- Date and time with separators; microseconds only when there are any. -/
def iso (t : DateTime) : String :=
  Text.zeroPadded 4 t.year ++ "-" ++ twoDigits t.month ++ "-" ++ twoDigits t.day ++ "T" ++
    twoDigits t.hour ++ ":" ++ twoDigits t.minute ++ ":" ++ twoDigits t.second ++
    (if t.millisecond = 0 then "" else "." ++ Text.zeroPadded 3 t.millisecond ++ "000")

end DateTime

end NtpQuery
