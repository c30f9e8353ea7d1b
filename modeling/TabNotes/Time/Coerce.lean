import TabNotes.Text.Blank
import TabNotes.Text.Search
import TabNotes.Time.Iso
import TabNotes.Time.Stamp
import TabNotes.Value.Display

/-! # Moments from values

A browser record gives moments as milliseconds since 1970 or as ISO 8601 text; callers also give
moments themselves.  Milliseconds are divided by 1000 as a double, and its fraction is rounded to
microseconds, a half to the even one. -/

namespace TabNotes.Time

open TabNotes.Text TabNotes.Number

/-- The double rounded to an integer, a half to the even one; 0 for infinities and NaN. -/
def nearestInt (x : Float) : Int :=
  match parts x with
  | .finite negative m e =>
    if 0 ≤ e then signed negative (m * Nat.pow 2 e.toNat)
    else signed negative (roundHalfEven m (Nat.pow 2 (-e).toNat))
  | _ => 0

/-- A finite number of seconds in microseconds: whole seconds, and the fraction rounded. -/
def microseconds (seconds : Float) : Int :=
  let whole := if seconds < 0 then seconds.ceil else seconds.floor
  nearestInt whole * second + nearestInt ((seconds - whole) * 1000000)

/-- The moment a number of milliseconds after the start of 1970; none outside the years 1 to 9999
and for infinities and NaN. -/
def ofEpochMilliseconds (ms : Float) : Option Moment :=
  if isFinite ms then
    Moment.ofClock? (epoch + microseconds (ms / 1000)) (some 0)
  else none

/-- The moment with a clock of known distance: in texts unknown ones are read as UTC. -/
def Moment.settled (m : Moment) : Moment := { m with offset := some (m.offset.getD 0) }

/-- The moment that a text writes, with any `Z` for the offset zero. -/
def ofText (s : String) : Option Moment :=
  let trimmed := trim s
  if trimmed == "" then none
  else (Moment.ofIso? (replaceAll "Z" "+00:00" trimmed)).map Moment.settled

/-- The moment that a value stands for, if any.  A moment of an unknown clock is one of the local
clock. -/
def ofValue (here : LocalZone) (v : Value) : Except Fault (Option Moment) :=
  match v with
  | .moment m =>
    match m.offset with
    | some _ => .ok (some m)
    | none => do return some (← m.toLocal here)
  | .int n =>
    match ofInt? n with
    | some ms => .ok (ofEpochMilliseconds ms)
    | none => .error .tooLargeForFloat
  | .float ms => .ok (ofEpochMilliseconds ms)
  | .text s => .ok (ofText s)
  | _ => .ok none

/-- The clock of a system: the moment that it shows, and the local clock beside it. -/
structure Clock where
  now : Moment
  here : LocalZone

/-- The moment of an export: the one that a value stands for, or that of the clock for null. -/
def resolveNow (clock : Clock) (v : Value) : Except Fault Moment :=
  match v with
  | .null => .ok clock.now
  | v => do
    match ← ofValue clock.here v with
    | some m => return m
    | none => .error (.badClock (← v.shown))

/-- The distance from UTC that a value stands for; none for null. -/
def zoneOf (v : Value) : Except Fault (Option Int) :=
  match v with
  | .null => .ok none
  | .zone offset => .ok (some offset)
  | v => .error (.notATimeZone v.typeName)

/-- The moment that a value is, when its clock is asked for. -/
def momentOf (v : Value) : Except Fault Moment :=
  match v with
  | .moment m => .ok m
  | v => .error (.noOperation v.typeName "astimezone")

end TabNotes.Time
