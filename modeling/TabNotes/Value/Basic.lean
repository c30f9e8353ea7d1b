import TabNotes.Number.Binary64
import TabNotes.Time.Moment

/-! # Values

What a template context, a preference or a browser record can hold.  A map keeps its entries in
order of insertion, with keys that are pairwise different; an entry set again keeps its place.
Numbers, true and false among them, are the same key when they are equal. -/

namespace TabNotes

open TabNotes.Time

/-- A key of a map. -/
inductive Key where
  | null
  | bool (b : Bool)
  | int (n : Int)
  | float (x : Float)
  | text (s : String)

/-- A value. -/
inductive Value where
  | null
  | bool (b : Bool)
  | int (n : Int)
  | float (x : Float)
  | text (s : String)
  /-- A list; a fixed one differs only in how it is displayed. -/
  | list (fixed : Bool) (items : List Value)
  | map (entries : List (Key × Value))
  | moment (m : Moment)
  /-- A clock's distance from UTC in microseconds. -/
  | zone (offset : Int)
  | function

instance : Inhabited Value := ⟨.null⟩

/-- The entries of a map. -/
abbrev Entries := List (Key × Value)

namespace Key

/-- The integer that a numeric key equals, if it equals one. -/
def number? : Key → Option Int
  | bool b => some (if b then 1 else 0)
  | int n => some n
  | float x => Number.toInt? x
  | _ => none

/-- Whether two keys are the same. -/
def same (a b : Key) : Bool :=
  match a, b with
  | null, null => true
  | text s, text t => s == t
  | float x, float y => x == y
  | a, b =>
    match a.number?, b.number? with
    | some m, some n => m == n
    | _, _ => false

/-- A key as a value. -/
def toValue : Key → Value
  | null => .null
  | bool b => .bool b
  | int n => .int n
  | float x => .float x
  | text s => .text s

end Key

namespace Entries

/-- The value under a text. -/
def get? (entries : Entries) (name : String) : Option Value :=
  match entries with
  | [] => none
  | (.text s, v) :: rest => if s == name then some v else get? rest name
  | _ :: rest => get? rest name

/-- Sets the value of a key, in its place if the key is there, else at the end. -/
def put (entries : Entries) (key : Key) (value : Value) : Entries :=
  match entries with
  | [] => [(key, value)]
  | (k, v) :: rest => if k.same key then (k, value) :: rest else (k, v) :: put rest key value

/-- Sets the entries of a second map in the first one. -/
def update (entries : Entries) (new : Entries) : Entries :=
  new.foldl (fun e entry => put e entry.1 entry.2) entries

/-- The map of a list of pairs. -/
def ofPairs (pairs : Entries) : Entries := update [] pairs

end Entries

namespace Value

/-- A map with text keys that are pairwise different. -/
def record (fields : List (String × Value)) : Value :=
  map (fields.map fun field => (Key.text field.1, field.2))

/-- A list of values. -/
def ofList (items : List Value) : Value := list false items

/-- The name of a value's type in messages. -/
def typeName : Value → String
  | null => "NoneType"
  | bool _ => "bool"
  | int _ => "int"
  | float _ => "float"
  | text _ => "str"
  | list fixed _ => if fixed then "tuple" else "list"
  | map _ => "dict"
  | moment _ => "datetime.datetime"
  | zone _ => "datetime.timezone"
  | function => "function"

/-- Whether a value counts as true: null, false, zero and everything empty do not. -/
def isTrue : Value → Bool
  | null => false
  | bool b => b
  | int n => n != 0
  | float x => x != 0
  | text s => s != ""
  | list _ items => !items.isEmpty
  | map entries => !entries.isEmpty
  | moment _ | zone _ | function => true

/-- The value itself if it counts as true, else the given one. -/
def orElse (v default : Value) : Value := if v.isTrue then v else default

/-- The entries of a map, and no entries for any other value. -/
def entries : Value → Entries
  | map es => es
  | _ => []

/-- Whether a value is a map. -/
def isMap : Value → Bool
  | map _ => true
  | _ => false

/-- The value under a text in a map; null when it is absent or the value is no map. -/
def get (v : Value) (name : String) : Value := (Entries.get? v.entries name).getD null

/-- A text, or the empty one for every other value. -/
def textOrEmpty : Value → String
  | text s => s
  | _ => ""

/-- The integer that an integer or a whole double is; true and false are none. -/
def wholeNumber? : Value → Option Int
  | int n => some n
  | float x => Number.toInt? x
  | _ => none

/-- An integer or null. -/
def ofInt? : Option Int → Value
  | some n => int n
  | none => null

end Value

end TabNotes
