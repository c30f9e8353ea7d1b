import TabNotes.Time.LocalZone
import TabNotes.Time.Notation

/-! # Time stamps of an export

`Moment.toOffset` shows a moment on another clock and `Moment.toLocal` on the local one.  `isoUtc`
writes a moment in UTC to the millisecond; `Stamp.of` gives the texts under which an export shows its
moment.  Years are written with the digits they have. -/

namespace TabNotes.Time

/-- The distance from UTC of the clock of a moment, which is the local clock where it is not
known. -/
def Moment.ownOffset (here : LocalZone) (m : Moment) : Except Fault Int :=
  match m.offset with
  | some offset => .ok offset
  | none => do
    let instant ← here.instantOf ((m.clock / second : Nat) : Int)
    here.offsetAt instant

/-- A reading as a moment, if it lies in the years 1 to 9999. -/
def Moment.ofClock (clock : Int) (offset : Option Int) : Except Fault Moment :=
  match Moment.ofClock? clock offset with
  | some m => .ok m
  | none => .error .dateOutOfRange

/-- The same instant on a clock in UTC. -/
def Moment.toUtc (here : LocalZone) (m : Moment) : Except Fault Moment := do
  let own ← m.ownOffset here
  Moment.ofClock (m.clock - own) (some 0)

/-- The same instant on a clock at another distance from UTC.  Both the reading in UTC and the new
one have to lie in the years 1 to 9999. -/
def Moment.toOffset (here : LocalZone) (m : Moment) (offset : Int) : Except Fault Moment := do
  let utc ← m.toUtc here
  Moment.ofClock (utc.clock + offset) (some offset)

/-- The same instant on the local clock. -/
def Moment.toLocal (here : LocalZone) (m : Moment) : Except Fault Moment := do
  let utc ← m.toUtc here
  let offset ← here.offsetAt ((utc.clock / second : Nat) : Int)
  Moment.ofClock (utc.clock + offset) (some offset)

/-- A moment in UTC to the millisecond. -/
def isoUtc (here : LocalZone) (m : Moment) : Except Fault String := do
  let utc ← m.toOffset here 0
  return utc.date.text 1 ++ "T" ++ utc.timeText ":" ++ "." ++ padded 3 (utc.micro / 1000) ++ "Z"

/-- The texts under which an export shows its moment. -/
structure Stamp where
  /-- In UTC, to the millisecond. -/
  iso : String
  /-- On the local clock, fit for file names. -/
  fileName : String
  localDate : String
  localTime : String
deriving DecidableEq

/-- A moment as an export shows it: on a clock at a given distance from UTC, or else on the local
one. -/
def Stamp.shown (here : LocalZone) (now : Moment) (zone : Option Int) : Except Fault Moment :=
  match zone with
  | some offset => now.toOffset here offset
  | none => now.toLocal here

/-- The stamp of a moment. -/
def Stamp.of (here : LocalZone) (now : Moment) (zone : Option Int) : Except Fault Stamp := do
  let there ← Stamp.shown here now zone
  let iso ← isoUtc here now
  return {
    iso := iso
    fileName := there.date.text 1 ++ "T" ++ there.timeText "-"
    localDate := there.date.text 1
    localTime := there.timeText ":" }

end TabNotes.Time
