import Dashboard.Binary64.Rounding

/-!
# Calendar.Timestamp · days and wall-clock times

The proleptic Gregorian calendar in the years from −262143 to 262142.

* **`Timestamp`** is a day with a wall-clock time. A leap second is second 59 with a nanosecond
  part of at least a thousand million.
* **`Timestamp.ofEpochMillis?`** is the time that many milliseconds after the start of 1970.
* **`dayNumber`** and **`dateOfDayNumber`** count days from 1970-01-01.
-/

namespace Dashboard

namespace Calendar

/-- A day and a wall-clock time. -/
structure Timestamp where
  year : Int
  month : Nat
  day : Nat
  hour : Nat
  minute : Nat
  second : Nat
  nanosecond : Nat
deriving DecidableEq, Repr

/-- The first year of the calendar. -/
def minYear : Int := -262143

/-- The last year of the calendar. -/
def maxYear : Int := 262142

/-- Whether a year has 366 days. -/
def isLeapYear (year : Int) : Bool := year % 4 == 0 && (year % 100 != 0 || year % 400 == 0)

/-- How many days a month has; none if there is no such month. -/
def daysInMonth (year : Int) (month : Nat) : Nat :=
  match month with
  | 2 => if isLeapYear year then 29 else 28
  | 4 | 6 | 9 | 11 => 30
  | 1 | 3 | 5 | 7 | 8 | 10 | 12 => 31
  | _ => 0

/-- Whether a day exists. -/
def isDate (year : Int) (month day : Nat) : Bool :=
  minYear ≤ year && year ≤ maxYear && 1 ≤ day && day ≤ daysInMonth year month

/-- The number of days from 1970-01-01 to a day. Years are counted from March, so that the leap
day ends a year. -/
def dayNumber (year : Int) (month day : Nat) : Int :=
  let y := if month ≤ 2 then year - 1 else year
  let era := y / 400
  let yearOfEra := y % 400
  let monthFromMarch : Int := ((month + 9) % 12 : Nat)
  let dayOfYear := (153 * monthFromMarch + 2) / 5 + day - 1
  let dayOfEra := yearOfEra * 365 + yearOfEra / 4 - yearOfEra / 100 + dayOfYear
  era * 146097 + dayOfEra - 719468

/-- The year, month and day that many days after 1970-01-01. -/
def dateOfDayNumber (number : Int) : Int × Nat × Nat :=
  let z := number + 719468
  let era := z / 146097
  let dayOfEra := z % 146097
  let yearOfEra := (dayOfEra - dayOfEra / 1460 + dayOfEra / 36524 - dayOfEra / 146096) / 365
  let dayOfYear := dayOfEra - (365 * yearOfEra + yearOfEra / 4 - yearOfEra / 100)
  let monthFromMarch := (5 * dayOfYear + 2) / 153
  let day := dayOfYear - (153 * monthFromMarch + 2) / 5 + 1
  let month := if monthFromMarch < 10 then monthFromMarch + 3 else monthFromMarch - 9
  let year := yearOfEra + era * 400 + (if month ≤ 2 then 1 else 0)
  (year, month.toNat, day.toNat)

/-- The time that many milliseconds after the start of 1970, if the calendar reaches that far. -/
def Timestamp.ofEpochMillis? (millis : Int) : Option Timestamp :=
  let seconds := millis / 1000
  let (year, month, day) := dateOfDayNumber (seconds / 86400)
  let ofDay := (seconds % 86400).toNat
  if isDate year month day then
    some ⟨year, month, day, ofDay / 3600, ofDay / 60 % 60, ofDay % 60,
      (millis % 1000).toNat * 1000000⟩
  else none

/-- The names of the months. -/
def monthNames : List String :=
  ["January", "February", "March", "April", "May", "June", "July", "August", "September",
    "October", "November", "December"]

/-- The names of the days of the week, from the day on which the count of days begins. -/
def weekdayNames : List String :=
  ["Thursday", "Friday", "Saturday", "Sunday", "Monday", "Tuesday", "Wednesday"]

/-- The name of the month. -/
def Timestamp.monthName (t : Timestamp) : String := monthNames.getD (t.month - 1) ""

/-- The name of the day of the week. -/
def Timestamp.weekdayName (t : Timestamp) : String :=
  weekdayNames.getD (dayNumber t.year t.month t.day % 7).toNat ""

end Calendar

end Dashboard
