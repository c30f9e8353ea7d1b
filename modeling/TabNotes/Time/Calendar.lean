/-! # The Gregorian calendar

Days are counted from 1 January of year 1, which is day 0.  `Date.dayNumber` counts the days before a
date and `Date.ofDayNumber` finds the date of a day; the rule for leap years is applied to all
years. -/

namespace TabNotes.Time

/-- A year, a month from 1 to 12 and a day of the month from 1 on. -/
structure Date where
  year : Nat
  month : Nat
  day : Nat
deriving DecidableEq

/-- Every fourth year is a leap year, of the full centuries every fourth one. -/
def isLeap (year : Nat) : Bool :=
  year % 4 == 0 && (year % 100 != 0 || year % 400 == 0)

/-- The days of each month. -/
def monthLengths (leap : Bool) : List Nat :=
  [31, if leap then 29 else 28, 31, 30, 31, 30, 31, 31, 30, 31, 30, 31]

/-- The days of one month; none for a number that is no month. -/
def monthLength (leap : Bool) (month : Nat) : Nat :=
  if month == 0 then 0 else (monthLengths leap).getD (month - 1) 0

/-- The days before 1 January of a year from 1 on. -/
def daysBeforeYear (year : Nat) : Nat :=
  let y := year - 1
  y * 365 + y / 4 - y / 100 + y / 400

/-- The days of a year before a month. -/
def daysBeforeMonth (leap : Bool) (month : Nat) : Nat :=
  ((monthLengths leap).take (month - 1)).foldl (· + ·) 0

/-- The number of days before a date. -/
def Date.dayNumber (d : Date) : Nat :=
  daysBeforeYear d.year + daysBeforeMonth (isLeap d.year) d.month + (d.day - 1)

/-- The year that holds a day, and the days of that year before it. -/
def yearOfDay (n : Nat) : Nat × Nat :=
  let quadricentury := n / 146097
  let inQuadricentury := n % 146097
  let century := min (inQuadricentury / 36524) 3
  let inCentury := inQuadricentury - century * 36524
  let olympiad := inCentury / 1461
  let inOlympiad := inCentury % 1461
  let year := min (inOlympiad / 365) 3
  (400 * quadricentury + 100 * century + 4 * olympiad + year + 1, inOlympiad - year * 365)

/-- Goes through the months from `month` on until one holds the day. -/
def monthOfDay (month : Nat) : (lengths : List Nat) → (n : Nat) → Nat × Nat
  | [], n => (month, n)
  | length :: lengths, n =>
    if n < length then (month, n) else monthOfDay (month + 1) lengths (n - length)

/-- The date of a day. -/
def Date.ofDayNumber (n : Nat) : Date :=
  let (year, inYear) := yearOfDay n
  let (month, inMonth) := monthOfDay 1 (monthLengths (isLeap year)) inYear
  ⟨year, month, inMonth + 1⟩

/-- The last year that dates are computed in. -/
def lastYear : Nat := 9999

/-- Whether a date exists, in a year from 1 to 9999. -/
def Date.isValid (d : Date) : Bool :=
  1 ≤ d.year && d.year ≤ lastYear && 1 ≤ d.month && d.month ≤ 12 && 1 ≤ d.day &&
    d.day ≤ monthLength (isLeap d.year) d.month

/-- The number of days from year 1 to year 9999. -/
def dayCount : Nat := daysBeforeYear (lastYear + 1)

/-- The day of the week of a day, Monday being 0. -/
def weekday (n : Nat) : Nat := n % 7

/-- The Monday of the first week of a year, which is the week with its first Thursday; day 0 is a
Monday, so no first week starts before it. -/
def firstMonday (year : Nat) : Int :=
  let newYear := daysBeforeYear year
  let w := weekday newYear
  if w ≤ 3 then (newYear : Int) - w else (newYear : Int) - w + 7

/-- The number of weeks of a year: 53 if it starts on a Thursday, or on a Wednesday before a leap
day. -/
def weekCount (year : Nat) : Nat :=
  let w := weekday (daysBeforeYear year)
  if w == 3 || (w == 2 && isLeap year) then 53 else 52

/-- The date of a weekday, from 1 for Monday to 7, of a week of a year. -/
def Date.ofWeek? (year week day : Nat) : Option Date :=
  if year == 0 || week == 0 || weekCount year < week || day == 0 || 7 < day then none
  else
    let n := firstMonday year + (week - 1) * 7 + (day - 1)
    if 0 ≤ n && n < dayCount then some (Date.ofDayNumber n.toNat) else none

end TabNotes.Time
