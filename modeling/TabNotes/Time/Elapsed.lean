import TabNotes.Fault
import TabNotes.Number.Binary64
import TabNotes.Time.Moment

/-! # Labels for elapsed time

`label` says how long ago something was in minutes, hours or days, whichever is the first that does
not come to a whole of the next one.  Each count is rounded, halves up, from the elapsed seconds.

The arithmetic is that of a given rounding of rationals: `elapsedText` uses doubles, and with no
rounding at all `label` is exact. -/

namespace TabNotes.Time

/-- A count with its unit. -/
def countText (count : Int) (unit : String) : String :=
  toString count ++ " " ++ unit ++ (if count == 1 then "" else "s") ++ " ago"

/-- The number of units in a number of seconds, rounded, halves up. -/
def unitCount (round : Rat → Rat) (unit : Rat) (seconds : Rat) : Int :=
  (round (round (seconds / unit) + 1 / 2)).floor

/-- The label for an elapsed time in microseconds. -/
def label (round : Rat → Rat) (elapsed : Int) : String :=
  let seconds := round ((elapsed : Rat) / (second : Rat))
  if seconds < 60 then "just now"
  else
    let minutes := unitCount round 60 seconds
    if minutes < 60 then countText minutes "minute"
    else
      let hours := unitCount round 3600 seconds
      if hours < 24 then countText hours "hour"
      else countText (unitCount round 86400 seconds) "day"

/-- The label for the time from one moment to another; both clocks or neither must know their
distance from UTC. -/
def elapsedText (earlier now : Moment) : Except Fault String :=
  if earlier.offset.isSome == now.offset.isSome then
    .ok (label Number.nearestDouble (now.instant - earlier.instant))
  else
    .error .mixedClocks

end TabNotes.Time
