import TabNotes.Text.Blank
import TabNotes.Text.Percent

/-! # Tab titles

A title that looks like a part of a URI, with a `+` or an escape in it, is decoded: `+` to a space
and the escapes to the text they stand for, all of them or none.  Then white space and one run of
number signs at the start go, so that a title is no Markdown heading. -/

namespace TabNotes.Tab

open TabNotes.Text

/-- The title with its escapes read: unchanged without `+` and escapes, and with only `+` read when
an escape is malformed or the bytes are not UTF-8. -/
def decodeTitle (cs : List Char) : List Char :=
  if cs.contains '+' || Percent.hasEscape cs then
    let spaced := cs.map fun c => if c == '+' then ' ' else c
    if Percent.hasStrayPercent spaced then spaced
    else (Percent.decode? spaced).getD spaced
  else cs

/-- The text without white space at its start and then without one run of number signs and the white
space after it; the number signs stay when nothing else is there. -/
def dropHeading (cs : List Char) : List Char :=
  let trimmed := dropBlanks cs
  match trimmed with
  | '#' :: _ =>
    let body := dropBlanks (trimmed.dropWhile (· == '#'))
    if body.isEmpty then trimmed else body
  | _ => trimmed

/-- The title as it appears in a note. -/
def cleanTitle (title : String) : String :=
  String.ofList (dropHeading (decodeTitle title.toList))

end TabNotes.Tab
