import TabNotes.Frontmatter.Field
import TabNotes.Template.TagText
import TabNotes.Value.Access

/-! # Preferences

Preferences are a bag of values under text keys.  `merge` lays stored preferences, and then
overriding ones, over the defaults: an entry set again keeps its place and gets the new value. -/

namespace TabNotes.Preferences

open TabNotes.Template TabNotes.Frontmatter

/-- The template of a note unless preferences give another one. -/
def defaultFormat : String :=
  rawTag "frontmatter" ++ "\n" ++
    sectionText "tabs" ("## " ++ valueTag "title" ++ "\n[" ++ valueTag "url" ++ "](" ++
      valueTag "url" ++ ")\n\n")

/-- The place holder for the time of the export in a note path. -/
def timestampMark : String := "\x7btimestamp\x7d"

/-- The path of a note in its vault unless preferences give another one. -/
def defaultNotePath : String := "tabSidian/tab-export-" ++ timestampMark ++ ".md"

/-- The parts of addresses whose tabs are left out by default. -/
def defaultRestrictions : List String :=
  ["chrome-extension://", "extension://", "moz-extension://", "safari-web-extension://",
    "edge://", "chrome://", "mail.google.com", "outlook.live.com"]

/-- The longest link to open unless preferences say otherwise. -/
def defaultLinkLength : Nat := 60000

/-- The fields in the order in which the default names list them. -/
def namingOrder : List Field :=
  [.title, .date, .time, .exportedAt, .tabCount, .tags, .collections, .incognito]

/-- The preferences of a user who has none. -/
def defaults : Entries :=
  (Value.record [
    ("markdownFormat", .text defaultFormat),
    ("restrictedUrls", .ofList (defaultRestrictions.map .text)),
    ("obsidianVault", .text ""),
    ("obsidianNotePath", .text defaultNotePath),
    ("maxObsidianUriLength", .int defaultLinkLength),
    ("frontmatterFieldNames",
      .record (namingOrder.map fun field => (field.key, .text field.defaultName))),
    ("frontmatterEnabledFields", .record (Field.all.map fun field => (field.key, .bool true))),
    ("frontmatterTitleTemplate", .text defaultTitle),
    ("frontmatterTagsTemplate", .text defaultTags),
    ("frontmatterCollectionsTemplate", .text defaultCollections)]).entries

/-- Reads one item of a list of key-value pairs. -/
def pairOf (index : Nat) (item : Value) : Except Fault (Key × Value) := do
  let parts ←
    match item.items with
    | .ok parts => pure parts
    | .error _ => .error (.pairNotIterable index)
  match parts with
  | [key, value] => return (← key.toKey, value)
  | parts => .error (.notAPair index parts.length)

/-- Reads the items of a list of key-value pairs, of which the first has the given position. -/
def pairsOf (index : Nat) : List Value → Except Fault Entries
  | [] => .ok []
  | item :: items => do
    let pair ← pairOf index item
    let pairs ← pairsOf (index + 1) items
    return pair :: pairs

/-- Lays a map, or a list of key-value pairs, over a bag. -/
def overlay (bag : Entries) (new : Value) : Except Fault Entries :=
  match new with
  | .map entries => .ok (Entries.update bag entries)
  | v => do
    let pairs ← pairsOf 0 (← v.items)
    return Entries.update bag pairs

/-- Lays a value over a bag if it counts as true. -/
def overlayIfTrue (bag : Entries) (new : Value) : Except Fault Entries :=
  if new.isTrue then overlay bag new else .ok bag

/-- The defaults under stored preferences under overriding ones. -/
def merge (stored override_ : Value) : Except Fault Entries := do
  let bag ← overlayIfTrue defaults stored
  overlayIfTrue bag override_

end TabNotes.Preferences
