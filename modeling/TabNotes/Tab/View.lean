import TabNotes.Tab.Records
import TabNotes.Tab.Title
import TabNotes.Time.Coerce
import TabNotes.Time.Elapsed
import TabNotes.Url.Parts

/-! # Tabs as notes show them

`View.of` turns the record of a tab into what templates can show of it.  `Gathered.of` puts the
views into groups: groups come in the order of their first tabs, the tabs of a group in the order
of all tabs, and tabs without a group stand by themselves. -/

namespace TabNotes.Tab

open TabNotes.Text TabNotes.Time

/-- The flags of a tab, by the names that records and templates use. -/
def flagNames : List String :=
  ["pinned", "active", "highlighted", "audible", "muted", "discarded", "incognito"]

/-- What templates can show of a tab. -/
structure View where
  id : Option Int
  index : Nat
  title : String
  url : String
  parts : Url.Parts
  favicon : String
  flags : List (String × Bool)
  windowId : Option Int
  groupId : Option Int
  /-- What is known of the group that the tab is in. -/
  group : Option GroupInfo
  lastAccessed : Option String
  lastAccessedRelative : String

/-- The text of the time of the last access, and how long ago it was. -/
def accessTexts (here : LocalZone) (record : Value) (now : Moment) :
    Except Fault (Option String × String) := do
  match ← ofValue here (record.get "lastAccessed") with
  | none => return (none, "")
  | some m =>
    let iso ← isoUtc here m
    let relative ← elapsedText m now
    return (some iso, relative)

/-- The view of the tab at a position; anything else than a map is a tab without fields. -/
def View.of (here : LocalZone) (groups : GroupIndex) (now : Moment) (index : Nat)
    (record : Value) : Except Fault View := do
  let url := trim (record.get "url").textOrEmpty
  let groupId := groupId? record
  let (lastAccessed, relative) ← accessTexts here record now
  return {
    id := (record.get "id").wholeNumber?
    index := index
    title := cleanTitle (record.get "title").textOrEmpty
    url := url
    parts := .of url
    favicon := (record.get "favIconUrl").textOrEmpty
    flags := flagNames.map fun name => (name, (record.get name).isTrue)
    windowId := (record.get "windowId").wholeNumber?
    groupId := groupId
    group := groupId.map fun id => .of (groups.get id)
    lastAccessed := lastAccessed
    lastAccessedRelative := relative }

/-- The views of tabs, of which the first has the given position. -/
def viewsFrom (here : LocalZone) (groups : GroupIndex) (now : Moment) (index : Nat) :
    List Value → Except Fault (List View)
  | [] => .ok []
  | record :: records => do
    let view ← View.of here groups now index record
    let views ← viewsFrom here groups now (index + 1) records
    return view :: views

/-- The summary of a tab's group, null when the tab is in none. -/
def View.groupSummary (v : View) : Value :=
  match v.groupId, v.group with
  | some id, some info => .record (info.summary (.int id))
  | _, _ => .null

/-- A tab as templates see it. -/
def View.toValue (window : Window) (v : View) : Value :=
  .record <|
    [("id", .ofInt? v.id), ("index", .int v.index), ("position", .int (v.index + 1)),
      ("title", .text v.title), ("url", .text v.url)] ++
    v.parts.fields ++
    [("favicon", .text v.favicon)] ++
    (v.flags.map fun flag => (flag.1, .bool flag.2)) ++
    [("windowId", .ofInt? v.windowId), ("groupId", .ofInt? v.groupId),
      ("group", v.groupSummary), ("window", window.toValue),
      ("timestamps", .record [
        ("lastAccessed", (v.lastAccessed.map Value.text).getD .null),
        ("lastAccessedRelative", .text v.lastAccessedRelative)])]

/-! ### Groups -/

/-- A group with its tabs. -/
structure Group where
  id : Int
  info : GroupInfo
  tabs : List View

/-- A group as templates see it. -/
def Group.toValue (window : Window) (g : Group) : Value :=
  .record (g.info.fields (.int g.id) ++
    [("tabs", .ofList (g.tabs.map (View.toValue window))), ("tabCount", .int g.tabs.length)])

/-- Tabs, the groups of those that are in one, and the others. -/
structure Gathered where
  tabs : List View
  groups : List Group
  ungrouped : List View

/-- Adds a tab to its group, which is opened at the end when there is none yet. -/
def addToGroup (groups : List Group) (id : Int) (info : GroupInfo) (view : View) : List Group :=
  match groups with
  | [] => [⟨id, info, [view]⟩]
  | g :: rest =>
    if g.id == id then { g with tabs := g.tabs ++ [view] } :: rest
    else g :: addToGroup rest id info view

/-- Adds a tab at the end. -/
def Gathered.add (g : Gathered) (view : View) : Gathered :=
  match view.groupId, view.group with
  | some id, some info =>
    { g with tabs := g.tabs ++ [view], groups := addToGroup g.groups id info view }
  | _, _ => { g with tabs := g.tabs ++ [view], ungrouped := g.ungrouped ++ [view] }

/-- Gathers tabs into their groups. -/
def Gathered.of (views : List View) : Gathered := views.foldl Gathered.add ⟨[], [], []⟩

end TabNotes.Tab
