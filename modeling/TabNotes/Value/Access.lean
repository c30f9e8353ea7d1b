import TabNotes.Text.Search
import TabNotes.Value.Display

/-! # Reading values of unknown shape

Operations that a value supports or refuses: looking up a field, going through items, conversion to
an integer, text operations.  Each refusal is a fault that names the value's type. -/

namespace TabNotes

open TabNotes.Number TabNotes.Text

namespace Value

/-- The value of a map under a text, null when absent; only maps have fields. -/
def field (v : Value) (name : String) : Except Fault Value :=
  match v with
  | map entries => .ok ((Entries.get? entries name).getD null)
  | v => .error (.noOperation v.typeName "get")

/-- What one meets when going through a value: items, keys or characters. -/
def items (v : Value) : Except Fault (List Value) :=
  match v with
  | list _ vs => .ok vs
  | map entries => .ok (entries.map fun entry => entry.1.toValue)
  | text s => .ok (s.toList.map fun c => text (String.singleton c))
  | v => .error (.notIterable v.typeName)

/-- The items of a value that counts as true; none of one that does not. -/
def itemsIfTrue (v : Value) : Except Fault (List Value) :=
  if v.isTrue then v.items else .ok []

/-- Conversion to an integer: of a double its integer part, of a text what it writes. -/
def toInteger (v : Value) : Except Fault Int :=
  match v with
  | bool b => .ok (if b then 1 else 0)
  | int n => .ok n
  | float x =>
    match parts x with
    | .nan => .error .nanToInteger
    | .infinite _ => .error .infinityToInteger
    | .finite negative m e => .ok (truncated negative m e)
  | text s => readInteger s
  | v => .error (.notANumber v.typeName)

/-- The text of a value on which a text operation is called. -/
def asText (v : Value) (operation : String) : Except Fault String :=
  match v with
  | text s => .ok s
  | v => .error (.noOperation v.typeName operation)

/-- Whether a text is part of a value: of a text, an item of a list, or a key of a map. -/
def holdsText (v : Value) (part : String) : Except Fault Bool :=
  match v with
  | text s => .ok (occursIn part s)
  | list _ items =>
    .ok <| items.any fun item =>
      match item with
      | text s => s == part
      | _ => false
  | map entries => .ok (Entries.get? entries part).isSome
  | v => .error (.notSearched v.typeName)

/-- A value as a key; lists and maps are none. -/
def toKey (v : Value) : Except Fault Key :=
  match v with
  | null => .ok .null
  | bool b => .ok (.bool b)
  | int n => .ok (.int n)
  | float x => .ok (.float x)
  | text s => .ok (.text s)
  | v => .error (.notHashable v.typeName)

end Value

end TabNotes
