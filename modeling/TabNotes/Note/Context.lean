import TabNotes.Frontmatter.Block
import TabNotes.Tab.View

/-! # The context of a note

Everything that the template of a note can name: the frontmatter block, the moment of the export,
the window, the tabs, their groups and the tabs without one. -/

namespace TabNotes.Note

open TabNotes.Time TabNotes.Tab TabNotes.Frontmatter

/-- What an export can be told besides its tabs. -/
structure Options where
  window : Value
  groups : Value
  now : Value
  zone : Value
  preferences : Value
  /-- Settings of the frontmatter block to use in place of those in the preferences. -/
  settings : Option Settings

/-- No options. -/
def Options.none : Options := ⟨.null, .null, .null, .null, .null, Option.none⟩

/-- Reads options from a map; a value that counts as false has none. -/
def Options.of (v : Value) (settings : Option Settings) : Except Fault Options := do
  let options := v.orElse (.map [])
  let now ← options.field "now"
  return {
    window := options.get "window"
    groups := options.get "groups"
    now := now
    zone := options.get "tz"
    preferences := options.get "cfg"
    settings := settings }

/-- The context of a note. -/
structure Context where
  stamp : Stamp
  window : Window
  gathered : Gathered
  frontmatter : String

/-- The fields of a stamp as templates see them. -/
def stampFields (s : Stamp) : List (String × Value) :=
  [("iso", .text s.iso), ("formattedTimestamp", .text s.fileName),
    ("localDate", .text s.localDate), ("localTime", .text s.localTime)]

/-- The export as templates see it. -/
def exportValue (stamp : Stamp) (tabCount : Nat) : Value :=
  .record (stampFields stamp ++ [("tabCount", .int tabCount)])

/-- The values that the templates of frontmatter fields can name. -/
def frontmatterData (exported window : Value) (tabCount : Nat) : Value :=
  .record [("export", exported), ("window", window), ("tabCount", .int tabCount)]

/-- The context as templates see it. -/
def Context.toValue (c : Context) : Value :=
  .record [
    ("frontmatter", .text c.frontmatter),
    ("export", exportValue c.stamp c.gathered.tabs.length),
    ("window", c.window.toValue),
    ("tabs", .ofList (c.gathered.tabs.map (View.toValue c.window))),
    ("groups", .ofList (c.gathered.groups.map (Group.toValue c.window))),
    ("ungroupedTabs", .ofList (c.gathered.ungrouped.map (View.toValue c.window)))]

/-- The settings of the frontmatter block: those given, or those in the preferences. -/
def settingsOf (options : Options) : Except Fault Settings := do
  let preferences ← Preferences.merge .null options.preferences
  match options.settings with
  | some settings => return settings
  | Option.none => Settings.ofPreferences (.map preferences)

/-- Builds the context of a note for tabs; `clock` shows the moment of the export unless the options
give one. -/
def Context.of (clock : Clock) (tabs : List Value) (options : Options) : Report Context := do
  let now ← Report.ofResult (resolveNow clock options.now)
  let zone ← Report.ofResult (zoneOf options.zone)
  let stamp ← Report.ofResult (Stamp.of clock.here now zone)
  let settings ← Report.ofResult (settingsOf options)
  let window := Window.of options.window tabs
  let groups ← Report.ofResult (GroupIndex.of options.groups)
  let views ← Report.ofResult (viewsFrom clock.here groups now 0 tabs)
  let exported := exportValue stamp views.length
  let frontmatter ←
    compose (frontmatterData exported window.toValue views.length) settings
  return ⟨stamp, window, .of views, frontmatter⟩

/-- Builds the context of a note for the items of a value. -/
def Context.ofValues (clock : Clock) (tabs options : Value) (settings : Option Settings) :
    Report Context := do
  let tabs ← Report.ofResult tabs.itemsIfTrue
  let options ← Report.ofResult (Options.of options settings)
  Context.of clock tabs options

end TabNotes.Note
