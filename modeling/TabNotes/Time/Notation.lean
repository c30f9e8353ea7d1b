import TabNotes.Time.Moment

/-! # Writing moments

`Moment.isoText` writes a moment in ISO 8601 notation.  `Moment.shown` and `shownZone` are the forms
in which messages show a moment and a UTC offset inside other values. -/

namespace TabNotes.Time

/-- A natural number, padded with zeros on the left. -/
def padded (width n : Nat) : String :=
  let digits := Nat.toDigits 10 n
  String.ofList (List.replicate (width - digits.length) '0' ++ digits)

/-- A date as `YYYY-MM-DD`. -/
def Date.text (yearWidth : Nat) (d : Date) : String :=
  padded yearWidth d.year ++ "-" ++ padded 2 d.month ++ "-" ++ padded 2 d.day

/-- A UTC offset: sign, hours and minutes, then seconds and microseconds as far as there are any. -/
def offsetText (offset : Int) : String :=
  let size := offset.natAbs
  let minutes := size / (60 * second)
  let sec := size / second % 60
  let micro := size % second
  (if offset < 0 then "-" else "+") ++ padded 2 (minutes / 60) ++ ":" ++ padded 2 (minutes % 60) ++
    (if sec == 0 && micro == 0 then "" else ":" ++ padded 2 sec) ++
    (if micro == 0 then "" else "." ++ padded 6 micro)

/-- The time of day of a moment, its parts joined by a separator. -/
def Moment.timeText (m : Moment) (sep : String) : String :=
  padded 2 m.hour ++ sep ++ padded 2 m.minute ++ sep ++ padded 2 m.sec

/-- A moment in ISO 8601 notation; microseconds are written when there are any. -/
def Moment.isoText (m : Moment) (between : String) : String :=
  m.date.text 4 ++ between ++ m.timeText ":" ++
    (if m.micro == 0 then "" else "." ++ padded 6 m.micro) ++
    match m.offset with
    | some offset => offsetText offset
    | none => ""

/-- The name of a UTC offset. -/
def zoneName (offset : Int) : String :=
  if offset == 0 then "UTC" else "UTC" ++ offsetText offset

/-- A UTC offset as messages show it: split into days, seconds and microseconds, of which only the
days can be negative. -/
def shownZone (offset : Int) : String :=
  if offset == 0 then "datetime.timezone.utc"
  else
    let days := offset.fdiv day
    let inDay := offset.fmod day
    let parts :=
      (if days == 0 then [] else ["days=" ++ toString days]) ++
      (if inDay.fdiv second == 0 then [] else ["seconds=" ++ toString (inDay.fdiv second)]) ++
      (if inDay.fmod second == 0 then [] else ["microseconds=" ++ toString (inDay.fmod second)])
    "datetime.timezone(datetime.timedelta(" ++ String.intercalate ", " parts ++ "))"

/-- A moment as messages show it. -/
def Moment.shown (m : Moment) : String :=
  let tail :=
    if m.micro != 0 then [m.sec, m.micro]
    else if m.sec != 0 then [m.sec]
    else []
  let numbers := [m.date.year, m.date.month, m.date.day, m.hour, m.minute] ++ tail
  "datetime.datetime(" ++ String.intercalate ", " (numbers.map toString) ++
    (match m.offset with
      | some offset => ", tzinfo=" ++ shownZone offset
      | none => "") ++ ")"

end TabNotes.Time
