/-!
Dates and times of day of the Gregorian calendar, and their written form: numbers of fixed width,
a fraction of a second in six digits where there is one, and the offset from universal time.
-/

namespace Stencil

structure Date where
  year : Nat
  month : Nat
  day : Nat
deriving DecidableEq, Repr

structure TimeOfDay where
  hour : Nat
  minute : Nat
  second : Nat
  microsecond : Nat
deriving DecidableEq, Repr

/-- `offset` counts the minutes by which the clock is ahead of universal time. -/
structure DateTime where
  date : Date
  time : TimeOfDay
  offset : Option Int
deriving DecidableEq, Repr

def fixedDigits (width n : Nat) : String :=
  let digits := Nat.toDigits 10 n
  .ofList (List.replicate (width - digits.length) '0' ++ digits)

namespace Date

def isLeapYear (year : Nat) : Bool :=
  year % 4 == 0 && (year % 100 != 0 || year % 400 == 0)

def daysInMonth (year month : Nat) : Nat :=
  if month == 2 then if isLeapYear year then 29 else 28
  else if [4, 6, 9, 11].contains month then 30 else 31

def isValid (date : Date) : Bool :=
  1 ≤ date.year && date.year ≤ 9999 && 1 ≤ date.month && date.month ≤ 12 && 1 ≤ date.day &&
    date.day ≤ daysInMonth date.year date.month

example : (⟨2023, 2, 29⟩ : Date).isValid = false := by decide

/-- The number of days before the first of January of a year. -/
def daysBeforeYear (year : Nat) : Nat :=
  let past := year - 1
  past * 365 + past / 4 - past / 100 + past / 400

def dayNumber (date : Date) : Nat :=
  daysBeforeYear date.year +
    (List.range (date.month - 1)).foldl
      (fun days month => days + daysInMonth date.year (month + 1)) date.day

/-- The day that is `days` days after the first of January 1970. A year is counted from March, so
that the day that leap years add stands at its end. -/
def ofUnixDay (days : Nat) : Date :=
  let shifted := days + 719468
  let cycle := shifted / 146097
  let dayOfCycle := shifted % 146097
  let yearOfCycle :=
    (dayOfCycle - dayOfCycle / 1460 + dayOfCycle / 36524 - dayOfCycle / 146096) / 365
  let dayOfYear := dayOfCycle - (365 * yearOfCycle + yearOfCycle / 4 - yearOfCycle / 100)
  let month := (5 * dayOfYear + 2) / 153
  { year := yearOfCycle + cycle * 400 + if month < 10 then 0 else 1
    month := if month < 10 then month + 3 else month - 9
    day := dayOfYear - (153 * month + 2) / 5 + 1 }

example : [0, 59, 11016, 11017, 19782].map ofUnixDay =
    [⟨1970, 1, 1⟩, ⟨1970, 3, 1⟩, ⟨2000, 2, 29⟩, ⟨2000, 3, 1⟩, ⟨2024, 2, 29⟩] := by
  decide +kernel

protected def toString (date : Date) : String :=
  fixedDigits 4 date.year ++ "-" ++ fixedDigits 2 date.month ++ "-" ++ fixedDigits 2 date.day

end Date

namespace TimeOfDay

def isValid (time : TimeOfDay) : Bool :=
  time.hour ≤ 23 && time.minute ≤ 59 && time.second ≤ 59 && time.microsecond ≤ 999999

protected def toString (time : TimeOfDay) : String :=
  fixedDigits 2 time.hour ++ ":" ++ fixedDigits 2 time.minute ++ ":" ++
    fixedDigits 2 time.second ++
    if time.microsecond == 0 then "" else "." ++ fixedDigits 6 time.microsecond

def microsecondOfDay (time : TimeOfDay) : Nat :=
  ((time.hour * 60 + time.minute) * 60 + time.second) * 1000000 + time.microsecond

end TimeOfDay

namespace DateTime

def writeOffset (offset : Int) : String :=
  (if offset < 0 then "-" else "+") ++ fixedDigits 2 (offset.natAbs / 60) ++ ":" ++
    fixedDigits 2 (offset.natAbs % 60)

/-- The written form with `separator` between the date and the time. -/
def write (separator : String) (value : DateTime) : String :=
  value.date.toString ++ separator ++ value.time.toString ++
    match value.offset with
    | none => ""
    | some offset => writeOffset offset

protected def toString : DateTime → String := write "T"

/-- The moment that is `seconds` seconds after the beginning of 1970, by universal time. -/
def ofUnixTime (seconds microsecond : Nat) : DateTime where
  date := Date.ofUnixDay (seconds / 86400)
  time := ⟨seconds % 86400 / 3600, seconds % 3600 / 60, seconds % 60, microsecond⟩
  offset := none

/-- Microseconds since the beginning of the calendar on the clock of universal time. -/
def instant (value : DateTime) (offset : Int) : Int :=
  (value.date.dayNumber * 86400000000 + value.time.microsecondOfDay : Nat) - offset * 60000000

/-- Whether two clock readings name one moment. A reading with an offset and one without never
do. -/
def sameMoment (left right : DateTime) : Bool :=
  match left.offset, right.offset with
  | none, none => left == right
  | some first, some second => left.instant first == right.instant second
  | _, _ => false

example : (⟨⟨1979, 5, 27⟩, ⟨7, 32, 0, 500000⟩, some (-90)⟩ : DateTime).toString =
    "1979-05-27T07:32:00.500000-01:30" := by
  decide +kernel

end DateTime

end Stencil
