import TabNotes.Time.Moment

/-! # Reading ISO 8601 moments

`Moment.ofIso?` reads a date, any one character and a time of day with an optional UTC offset.

* Dates: `YYYY-MM-DD`, `YYYYMMDD`, and by weeks `YYYY-Www-D`, `YYYYWwwD`, the weekday optional.
* Times: `HH`, `HH:MM`, `HH:MM:SS` and `HH:MM:SS.f…`, with or without the colons; a fraction follows
  a point or comma (after the seconds also a colon, and without colons nothing at all), and only its
  first six digits count.  Whatever stands between a complete time and the sign of the offset is
  passed over.
* Offsets: a sign and a time of that form, less than a day; or `Z`.

Text is read as UTF-8 bytes with an endless run of zero bytes after them, so that a position past
the end reads as zero. -/

namespace TabNotes.Time

/-- The bytes of a text; positions past the end read as 0. -/
structure Reading where
  bytes : ByteArray

namespace Reading

/-- The byte at a position. -/
def at_ (r : Reading) (i : Nat) : Nat :=
  if h : i < r.bytes.size then r.bytes[i].toNat else 0

/-- Whether the byte at a position is a digit. -/
def isDigitAt (r : Reading) (i : Nat) : Bool :=
  0x30 ≤ r.at_ i && r.at_ i ≤ 0x39

/-- The number written by exactly `count` digits at a position. -/
def digits? (r : Reading) (i : Nat) : (count : Nat) → Option Nat
  | 0 => some 0
  | count + 1 =>
    if r.isDigitAt (i + count) then
      (r.digits? i count).map fun n => 10 * n + (r.at_ (i + count) - 0x30)
    else
      none

/-- The number of digits from a position on, up to `limit`. -/
def digitRun (r : Reading) (i : Nat) : (limit : Nat) → Nat
  | 0 => 0
  | limit + 1 => if r.isDigitAt i then r.digitRun (i + 1) limit + 1 else 0

def hyphen : Nat := 0x2D
def plus : Nat := 0x2B
def colon : Nat := 0x3A
def point : Nat := 0x2E
def comma : Nat := 0x2C
def letterW : Nat := 0x57
def letterZ : Nat := 0x5A

/-- Where the date ends.  A hyphen after `YYYY-Www` belongs to the time when a digit comes two
places later; a run of digits after `YYYYWww` starts with a weekday when that leaves the run odd. -/
def dateEnd (r : Reading) : Option Nat :=
  let size := r.bytes.size
  if size == 7 then some 7
  else if r.at_ 4 == hyphen then
    if r.at_ 5 == letterW then
      if size > 8 && r.at_ 8 == hyphen then
        if size == 9 then none
        else if size > 10 && r.isDigitAt 10 then some 8
        else some 10
      else some 8
    else some 10
  else if r.at_ 4 == letterW then
    let stop := 7 + r.digitRun 7 (size - 7)
    if stop < 9 then some stop
    else if stop % 2 == 0 then some 7
    else some 8
  else some 8

/-- The date in the first `stop` bytes. -/
def date? (r : Reading) (stop : Nat) : Option Date := do
  let year ← r.digits? 0 4
  let separated := r.at_ 4 == hyphen
  let i := if separated then 5 else 4
  if r.at_ i == letterW then
    let week ← r.digits? (i + 1) 2
    let i := i + 3
    if i < stop then
      if separated && r.at_ i != hyphen then none
      else
        let weekday ← r.digits? (if separated then i + 1 else i) 1
        Date.ofWeek? year week weekday
    else
      Date.ofWeek? year week 1
  else
    let month ← r.digits? i 2
    let i := i + 2
    if separated && r.at_ i != hyphen then none
    else
      let day ← r.digits? (if separated then i + 1 else i) 2
      some ⟨year, month, day⟩

/-- A time of day as written, and whether something was left over after it. -/
structure Clock where
  hour : Nat
  minute : Nat
  sec : Nat
  micro : Nat
  leftover : Bool

/-- The fraction of a second from `i` up to `stop`. -/
def fraction? (r : Reading) (i stop : Nat) : Option (Nat × Bool) := do
  let count := min (stop - i) 6
  let n ← r.digits? i count
  let after := i + count + r.digitRun (i + count) (r.bytes.size - (i + count))
  some (n * Nat.pow 10 (6 - count), r.at_ after != 0)

/-- Reads hours, minutes and seconds up to `stop`, as many as are there, then a fraction. -/
def clockFrom? (r : Reading) (stop : Nat) (colons : Bool) :
    (missing : Nat) → (read : List Nat) → (i : Nat) → Option Clock
  | 0, read, i => do
    let (micro, leftover) ← r.fraction? i stop
    some ⟨read.getD 0 0, read.getD 1 0, read.getD 2 0, micro, leftover⟩
  | missing + 1, read, i => do
    let n ← r.digits? i 2
    let read := read ++ [n]
    let next := r.at_ (i + 2)
    let colons := if read.length == 1 then next == colon else colons
    if stop ≤ i + 3 then
      some ⟨read.getD 0 0, read.getD 1 0, read.getD 2 0, 0, next != 0⟩
    else if colons && next == colon then
      r.clockFrom? stop colons missing read (i + 3)
    else if next == point || next == comma then
      let (micro, leftover) ← r.fraction? (i + 3) stop
      some ⟨read.getD 0 0, read.getD 1 0, read.getD 2 0, micro, leftover⟩
    else if !colons then
      r.clockFrom? stop colons missing read (i + 2)
    else
      none

/-- Where the offset starts: at the first sign or `Z` at or after `i`, within `limit` bytes. -/
def offsetStart (r : Reading) (i : Nat) : (limit : Nat) → Nat
  | 0 => i
  | limit + 1 =>
    let b := r.at_ i
    if b == plus || b == hyphen || b == letterZ then i else r.offsetStart (i + 1) limit

/-- A UTC offset in microseconds from the sign on; a part below a second counts only beside a
whole one. -/
def offset? (r : Reading) (i : Nat) : Option Int := do
  let c ← r.clockFrom? r.bytes.size true 3 [] (i + 1)
  if c.leftover then none
  else
    let seconds := c.hour * 3600 + c.minute * 60 + c.sec
    let size : Nat := if seconds == 0 then 0 else seconds * second + c.micro
    if size < day then
      some (if r.at_ i == hyphen then -(size : Int) else size)
    else
      none

/-- The moment at a date, with the time of day that starts at `i`. -/
def moment? (r : Reading) (date : Date) (i : Nat) : Option Moment := do
  let size := r.bytes.size
  let sign := r.offsetStart i (max 1 (size - i))
  let c ← r.clockFrom? sign true 3 [] i
  let offset ←
    if size ≤ sign then (if c.leftover then none else some none)
    else if r.at_ sign == letterZ then (if r.at_ (sign + 1) == 0 then some (some 0) else none)
    else (r.offset? sign).map some
  Moment.ofParts? date c.hour c.minute c.sec c.micro offset

/-- The number of bytes of the character that starts with a byte. -/
def characterSize (b : Nat) : Nat :=
  if b < 0x80 then 1 else if b < 0xE0 then 2 else if b < 0xF0 then 3 else 4

end Reading

/-- Reads a moment in ISO 8601 notation. -/
def Moment.ofIso? (s : String) : Option Moment := do
  if s.length < 7 then none
  else
    let r : Reading := ⟨s.toUTF8⟩
    let stop ← r.dateEnd
    let date ← r.date? stop
    if r.bytes.size > stop then
      r.moment? date (stop + Reading.characterSize (r.at_ stop))
    else
      Moment.ofParts? date 0 0 0 0 none

end TabNotes.Time
