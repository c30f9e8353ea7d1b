import TabNotes.Note.Format
import TabNotes.Template.Review

/-! # Presets

A preset is a template with an id, a name and a description.  There are built-in ones, and users add
their own.  `diagnose` reviews a template and previews it over a sample context. -/

namespace TabNotes

open TabNotes.Text TabNotes.Template TabNotes.Time TabNotes.Note

/-- A template to choose from. -/
structure Preset where
  id : String
  name : String
  description : String
  template : String

namespace Preset

/-- A tab as an item of a list. -/
def listItem : String := "- [" ++ valueTag "title" ++ "](" ++ valueTag "url" ++ ")\n"

/-- The lines about the last visit of a tab. -/
def lastVisit : String :=
  sectionText "timestamps.lastAccessed"
    ("- Last visited: " ++ valueTag "timestamps.lastAccessed" ++ " (" ++
      valueTag "timestamps.lastAccessedRelative" ++ ")\n") ++
  invertedText "timestamps.lastAccessed" "- Last visited: unknown\n"

/-- The presets that come with the library. -/
def builtIn : List Preset := [
  { id := "builtin:default"
    name := "Default headings"
    description := "Frontmatter with level-two headings per tab."
    template := Preferences.defaultFormat },
  { id := "builtin:list"
    name := "Compact list"
    description := "Frontmatter followed by a bullet list of tabs."
    template := rawTag "frontmatter" ++ "\n" ++ sectionText "tabs" listItem },
  { id := "builtin:metadata"
    name := "Metadata summary"
    description := "Adds hostname and timestamps under each tab entry."
    template :=
      rawTag "frontmatter" ++ "\n" ++
        sectionText "tabs"
          ("## " ++ valueTag "title" ++ "\n- URL: " ++ valueTag "url" ++ "\n- Host: " ++
            valueTag "hostname" ++ "\n" ++
            sectionText "favicon" ("- Favicon: " ++ valueTag "favicon" ++ "\n") ++
            lastVisit ++ "\n") },
  { id := "builtin:groups"
    name := "Grouped by tab group"
    description := "One heading per tab group, ungrouped tabs last."
    template :=
      rawTag "frontmatter" ++ "\n" ++
        sectionText "groups"
          ("## " ++ valueTag "title" ++ invertedText "title" "Untitled group" ++ "\n" ++
            sectionText "tabs" listItem ++ "\n") ++
        sectionText "ungroupedTabs.0" "## Other tabs\n" ++
        sectionText "ungroupedTabs" listItem }]

/-- How the ids of presets that users add begin. -/
def customStart : String := "custom:"

/-- Reads a preset that a user added: a template and a name that is not blank.  One without a proper
id gets a fresh one. -/
def ofValue? (freshId : String) (v : Value) : Option Preset :=
  let template := (v.get "template").textOrEmpty
  let name := trim (v.get "name").textOrEmpty
  if template == "" || name == "" then none
  else
    some {
      id :=
        match v.get "id" with
        | .text s => if beginsWith customStart s then s else customStart ++ freshId
        | _ => customStart ++ freshId
      name := name
      description := trim (v.get "description").textOrEmpty
      template := template }

/-- The built-in presets and those that users added. -/
def all (freshId : String) (custom : List Value) : List Preset :=
  builtIn ++ custom.filterMap (ofValue? freshId)

/-- The first preset with a given template. -/
def find? (freshId : String) (custom : List Value) (template : Value) : Option Preset :=
  match template with
  | .text s => (all freshId custom).find? fun preset => preset.template == s
  | _ => none

end Preset

/-! ### A sample to preview templates on -/

/-- 2 January 2024, 03:04:05 UTC. -/
def sampleNow : Moment :=
  (Moment.ofParts? ⟨2024, 1, 2⟩ 3 4 5 0 (some 0)).getD ⟨0, some 0, by decide⟩

/-- Two tabs, one of them in a group. -/
def sampleTabs : List Value := [
  .record [("id", .int 1), ("title", .text "Example Domain"),
    ("url", .text "https://example.com/welcome?ref=preview#intro"),
    ("favIconUrl", .text "https://example.com/favicon.ico"), ("active", .bool true),
    ("highlighted", .bool true), ("windowId", .int 1), ("groupId", .int 7),
    ("lastAccessed", .int 1704110400000)],
  .record [("id", .int 2), ("title", .text "Docs <Reference>"),
    ("url", .text "https://docs.example.com/"), ("windowId", .int 1), ("groupId", .int (-1)),
    ("lastAccessed", .int 1704061800000)]]

/-- The options of the sample. -/
def sampleOptions : Options :=
  { Options.none with
    window := .record [("id", .int 1), ("title", .text "Sample window"), ("focused", .bool true),
      ("incognito", .bool false)]
    groups := .map [(.int 7, .record [("id", .int 7), ("title", .text "Research"),
      ("color", .text "blue"), ("collapsed", .bool false), ("windowId", .int 1)])]
    now := .moment sampleNow
    zone := .zone 0 }

/-- The sample context. -/
def sampleContext : Value :=
  match (Context.of ⟨sampleNow, .utc⟩ sampleTabs sampleOptions).outcome.1 with
  | .ok context => context.toValue
  | .error _ => .null

/-! ### Diagnostics -/

/-- What a user is told about a template. -/
structure Diagnostics where
  review : Review
  preview : String
  previewError : Option String

/-- Reviews a template and, if it has no errors, renders it over a context. -/
def diagnose (template context : Value) : Except Fault Diagnostics :=
  let review := Template.review template
  if review.errors.isEmpty then
    match renderValue template context with
    | .ok preview => .ok ⟨review, preview, none⟩
    | .error (.template cause) => .ok ⟨review, "", some cause.message⟩
    | .error fault => .error fault
  else .ok ⟨review, "", some "Fix template errors to preview output."⟩

end TabNotes
