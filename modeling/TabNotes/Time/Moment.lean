import TabNotes.Time.Calendar

/-! # Moments

A moment is a reading of a calendar and clock, to the microsecond, with the distance of that clock
from UTC when it is known.  Readings lie between the start of year 1 and the end of year 9999;
`clock` counts the microseconds since the former. -/

namespace TabNotes.Time

/-- Microseconds in a second. -/
def second : Nat := 1000000

/-- Microseconds in a day. -/
def day : Nat := 86400 * second

/-- Microseconds that clocks can show. -/
def clockSpan : Nat := dayCount * day

/-- A reading of a calendar and clock. -/
structure Moment where
  /-- Microseconds since the start of year 1 on this clock. -/
  clock : Nat
  /-- Microseconds that this clock is ahead of UTC, when known. -/
  offset : Option Int
  inSpan : clock < clockSpan

namespace Moment

/-- The moment with the given reading, if clocks can show it. -/
def ofClock? (clock : Int) (offset : Option Int) : Option Moment :=
  if h : 0 ≤ clock ∧ clock < clockSpan then
    some ⟨clock.toNat, offset, by omega⟩
  else
    none

/-- The moment at a date and time of day. -/
def ofParts? (date : Date) (hour minute sec micro : Nat) (offset : Option Int) : Option Moment :=
  if date.isValid && hour < 24 && minute < 60 && sec < 60 && micro < second then
    ofClock? (date.dayNumber * day + (hour * 3600 + minute * 60 + sec) * second + micro) offset
  else
    none

/-- The date shown. -/
def date (m : Moment) : Date := Date.ofDayNumber (m.clock / day)

/-- The whole seconds since midnight. -/
def secondOfDay (m : Moment) : Nat := m.clock % day / second

def hour (m : Moment) : Nat := m.secondOfDay / 3600

def minute (m : Moment) : Nat := m.secondOfDay / 60 % 60

def sec (m : Moment) : Nat := m.secondOfDay % 60

def micro (m : Moment) : Nat := m.clock % second

/-- The count of microseconds on a UTC clock; a clock of unknown distance is read as UTC. -/
def instant (m : Moment) : Int := m.clock - m.offset.getD 0

end Moment

/-- The start of 1970 in UTC, from where epoch times count. -/
def epoch : Nat := daysBeforeYear 1970 * day

end TabNotes.Time
