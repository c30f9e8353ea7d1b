import TabNotes.Fault
import TabNotes.Time.Moment

/-! # The local clock

A system has a local clock, whose distance from UTC can be another one at every instant: it is put
forward and back with the seasons, and laws change it.  Instants are whole seconds since the start
of year 1 in UTC, and so is what the clock shows.

`LocalZone.offsetAt` gives the distance at an instant.  `LocalZone.instantOf` finds the instant of a
reading: of two the earlier one, and for a reading that the clock leaves out the one after the
gap. -/

namespace TabNotes.Time

/-- A local clock, by how many seconds it is ahead of UTC at an instant. -/
structure LocalZone where
  aheadAt : Int → Int

namespace LocalZone

/-- The clock that shows UTC. -/
def utc : LocalZone := ⟨fun _ => 0⟩

/-- A clock that is always ahead of UTC by as many seconds. -/
def fixed (seconds : Int) : LocalZone := ⟨fun _ => seconds⟩

/-- Seconds in a day. -/
def daySeconds : Nat := 86400

/-- The year that clocks show so many seconds after the start of year 1, or before it. -/
def yearAt (reading : Int) : Int :=
  let quadricentury : Int := 146097
  let days := reading / daySeconds
  (yearOfDay (days % quadricentury).toNat).1 + 400 * (days / quadricentury)

/-- What the clock shows at an instant, which has to lie in the years 1 to 9999. -/
def shownAt (z : LocalZone) (instant : Int) : Except Fault Int :=
  let shown := instant + z.aheadAt instant
  if 0 ≤ shown ∧ shown < dayCount * daySeconds then .ok shown
  else .error (.yearOutOfRange (yearAt shown))

/-- The distance of the clock from UTC at an instant, in microseconds; it has to be less than a
day. -/
def offsetAt (z : LocalZone) (instant : Int) : Except Fault Int :=
  let ahead := z.aheadAt instant
  if -daySeconds < ahead ∧ ahead < daySeconds then .ok (ahead * second)
  else .error (.offsetOutOfRange ahead)

/-- The distance of the clock from UTC at an instant at which it shows the years 1 to 9999. -/
def distanceAt (z : LocalZone) (instant : Int) : Except Fault Int := do
  return (← z.shownAt instant) - instant

/-- The instant at which the clock shows a reading.  It is first sought by the distance of the clock
at about that time.  Where the clock then shows the reading it could have shown it earlier, by the
distance a day before; else the distance that is found counts. -/
def instantOf (z : LocalZone) (reading : Int) : Except Fault Int := do
  let distance ← z.distanceAt reading
  let first := reading - distance
  let shown ← z.shownAt first
  let other ← z.distanceAt (if shown = reading then first - daySeconds else first)
  if distance = other then return first
  let next := reading - other
  let again ← z.shownAt next
  if again = reading then return next
  else if shown = reading then return first
  else return max first next

end LocalZone

end TabNotes.Time
