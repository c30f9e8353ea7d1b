import TabNotes.Number.Integer
import TabNotes.Number.Shortest
import TabNotes.Time.Notation
import TabNotes.Value.Basic

/-! # The text of a value

`Value.shown` is the form in which messages show a value, with texts in quotes; `Value.display` is
the plain text of a value, in which only a text on its own and a moment look different.  Both fail
for an integer of too many digits. -/

namespace TabNotes

open TabNotes.Text TabNotes.Number TabNotes.Time

/-- The word for a truth value. -/
def boolText (b : Bool) : String := if b then "True" else "False"

/-- A key as messages show it. -/
def Key.shown : Key → Except Fault String
  | .null => .ok "None"
  | .bool b => .ok (boolText b)
  | .int n => writeInteger n
  | .float x => .ok (floatText x)
  | .text s => .ok (quoted s)

mutual

/-- A value as messages show it. -/
def Value.shown : Value → Except Fault String
  | .null => .ok "None"
  | .bool b => .ok (boolText b)
  | .int n => writeInteger n
  | .float x => .ok (floatText x)
  | .text s => .ok (quoted s)
  | .list fixed items => do
    let shown ← shownItems items
    let inner := String.intercalate ", " shown
    if fixed then
      return "(" ++ inner ++ (if shown.length == 1 then "," else "") ++ ")"
    else
      return "[" ++ inner ++ "]"
  | .map entries => do
    let shown ← shownEntries entries
    return "\x7b" ++ String.intercalate ", " shown ++ "\x7d"
  | .moment m => .ok m.shown
  | .zone offset => .ok (shownZone offset)
  | .function => .ok "<function>"

/-- The items of a list as messages show them. -/
def shownItems : List Value → Except Fault (List String)
  | [] => .ok []
  | v :: vs => do
    let first ← v.shown
    let rest ← shownItems vs
    return first :: rest

/-- The entries of a map as messages show them. -/
def shownEntries : List (Key × Value) → Except Fault (List String)
  | [] => .ok []
  | (k, v) :: rest => do
    let key ← k.shown
    let value ← v.shown
    let others ← shownEntries rest
    return (key ++ ": " ++ value) :: others

end

/-- The plain text of a value. -/
def Value.display : Value → Except Fault String
  | .text s => .ok s
  | .moment m => .ok (m.isoText " ")
  | .zone offset => .ok (zoneName offset)
  | v => v.shown

end TabNotes
