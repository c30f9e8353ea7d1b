import TabNotes.Value.Access

/-! # Windows and groups of tabs

A browser's records of its window and of its tab groups, with every field in its proper type and a
default for what is missing.  `GroupIndex.of` gathers the records of groups by their ids; a later
record takes the place of an earlier one with the same id. -/

namespace TabNotes.Tab

/-- The window that tabs stand in. -/
structure Window where
  id : Option Int
  title : String
  focused : Bool
  incognito : Bool

/-- A window as templates see it. -/
def Window.toValue (w : Window) : Value :=
  .record [("id", .ofInt? w.id), ("title", .text w.title), ("focused", .bool w.focused),
    ("incognito", .bool w.incognito)]

/-- Whether one of the tabs is private. -/
def anyIncognito (tabs : List Value) : Bool :=
  tabs.any fun tab => (tab.get "incognito").isTrue

/-- Reads a window record.  A window that does not say whether it is private is so when one of its
tabs is. -/
def Window.of (record : Value) (tabs : List Value) : Window :=
  { id := (record.get "id").wholeNumber?
    title := (record.get "title").textOrEmpty
    focused := (record.get "focused").isTrue
    incognito :=
      match record.get "incognito" with
      | .bool b => b
      | _ => anyIncognito tabs }

/-- Reads a window record, with the tabs as the items of a value, which are looked at only when the
record does not say whether the window is private. -/
def Window.ofValues (record tabs : Value) : Except Fault Window :=
  match record.get "incognito" with
  | .bool _ => .ok (.of record [])
  | _ => do return .of record (← tabs.items)

/-- What is known of a group of tabs. -/
structure GroupInfo where
  title : String
  color : String
  collapsed : Bool
  windowId : Option Int

/-- Reads a group record; anything else than a map gives empty fields. -/
def GroupInfo.of (record : Value) : GroupInfo :=
  { title := (record.get "title").textOrEmpty
    color := (record.get "color").textOrEmpty
    collapsed := (record.get "collapsed").isTrue
    windowId := (record.get "windowId").wholeNumber? }

/-- The fields of a group that a tab of it shows. -/
def GroupInfo.summary (info : GroupInfo) (id : Value) : List (String × Value) :=
  [("id", id), ("title", .text info.title), ("color", .text info.color),
    ("collapsed", .bool info.collapsed)]

/-- All fields of a group record. -/
def GroupInfo.fields (info : GroupInfo) (id : Value) : List (String × Value) :=
  info.summary id ++ [("windowId", .ofInt? info.windowId)]

/-- The id of the group that a tab is in; negative ids stand for none. -/
def groupId? (tab : Value) : Option Int :=
  match (tab.get "groupId").wholeNumber? with
  | some n => if n < 0 then none else some n
  | none => none

/-- `groupId?` for a value that may be no map, which is refused. -/
def groupIdOf (tab : Value) : Except Fault (Option Int) := do
  let _ ← tab.field "groupId"
  return groupId? tab

/-! ### The index of group records -/

/-- Group records by their ids, in the order in which the ids came first. -/
abbrev GroupIndex := List (Int × Value)

namespace GroupIndex

/-- Sets the record of an id. -/
def put (index : GroupIndex) (id : Int) (record : Value) : GroupIndex :=
  match index with
  | [] => [(id, record)]
  | (i, r) :: rest => if i == id then (i, record) :: rest else (i, r) :: put rest id record

/-- The record of an id, null when there is none. -/
def get (index : GroupIndex) (id : Int) : Value := (index.lookup id).getD .null

/-- The id that a key stands for; no fault but an infinite key stops the index. -/
def keyId? (key : Key) : Except Fault (Option Int) :=
  match key.toValue.toInteger with
  | .ok n => .ok (some n)
  | .error .infinityToInteger => .error .infinityToInteger
  | .error _ => .ok none

/-- The id of a record under a key: its own one, or else the one that the key stands for. -/
def idUnder? (key : Key) (record : Value) : Except Fault (Option Int) :=
  match (record.get "id").wholeNumber? with
  | some n => .ok (some n)
  | none => keyId? key

/-- Adds the records of a map. -/
def addEntries (index : GroupIndex) : Entries → Except Fault GroupIndex
  | [] => .ok index
  | (key, record) :: rest =>
    if record.isMap then do
      match ← idUnder? key record with
      | some id => addEntries (put index id record) rest
      | none => addEntries index rest
    else addEntries index rest

/-- Adds a record that has an id. -/
def addItem (index : GroupIndex) (record : Value) : GroupIndex :=
  match record.isMap, (record.get "id").wholeNumber? with
  | true, some id => put index id record
  | _, _ => index

/-- Gathers the group records in a map, whose keys count as ids of records without one, or in a
list. -/
def of (groups : Value) : Except Fault GroupIndex :=
  match groups with
  | .map entries => addEntries [] entries
  | .list _ items => .ok (items.foldl addItem [])
  | _ => .ok []

end GroupIndex

end TabNotes.Tab
