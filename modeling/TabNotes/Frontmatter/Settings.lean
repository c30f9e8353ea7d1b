import TabNotes.Preferences
import TabNotes.Text.Blank

/-! # Frontmatter settings

Settings say for each field under what name it is written and whether it is written at all, and
give the templates of the title, the tags and the collections.  `Settings.ofPreferences` reads them
from preferences and puts a default in place of whatever is not usable; settings made by hand are
taken as they are. -/

namespace TabNotes.Frontmatter

open TabNotes.Text

/-- The settings of the frontmatter block. -/
structure Settings where
  /-- A map from the keys of fields to names. -/
  fieldNames : Value
  /-- A map from the keys of fields to truth values. -/
  enabled : Value
  titleTemplate : Value
  tagsTemplate : Value
  collectionsTemplate : Value

/-- The names of fields by default. -/
def defaultNames : Value :=
  .record (Preferences.namingOrder.map fun field => (field.key, .text field.defaultName))

/-- All fields enabled. -/
def allEnabled : Value := .record (Field.all.map fun field => (field.key, .bool true))

namespace Settings

/-- The settings without any preference. -/
def default : Settings :=
  ⟨defaultNames, allEnabled, .text defaultTitle, .text defaultTags, .text defaultCollections⟩

/-- The field of a key, which may be any value. -/
def fieldOf (key : Value) : Except Fault Field :=
  let found :=
    match key with
    | .text s => Field.ofKey? s
    | _ => none
  match found with
  | some field => .ok field
  | none => do
    let shown ← key.shown
    .error (.unknownKey shown)

/-- The value under a key in a map of settings, null when absent. -/
def valueOf (map : Value) (key : Value) : Except Fault Value := do
  let entries ←
    match map with
    | .map entries => pure entries
    | v => .error (.noOperation v.typeName "get")
  let key ← key.toKey
  match entries.find? fun entry => entry.1.same key with
  | some entry => return entry.2
  | none => return .null

/-- The name that a field is written under: the default one if the given one is empty. -/
def fieldName (s : Settings) (key : Value) : Except Fault Value := do
  let name ← valueOf s.fieldNames key
  if name.isTrue then return name
  else
    let field ← fieldOf key
    return .text field.defaultName

/-- Whether a field is written; fields that are not mentioned are. -/
def isEnabled (s : Settings) (key : Value) : Except Fault Bool := do
  let entries ←
    match s.enabled with
    | .map entries => pure entries
    | v => .error (.noOperation v.typeName "get")
  let key' ← key.toKey
  let _ ← fieldOf key
  match entries.find? fun entry => entry.1.same key' with
  | some entry => return entry.2.isTrue
  | none => return true

end Settings

/-! ### Settings from preferences -/

/-- The characters that a field name may have. -/
def isNameCharacter (c : Char) : Bool :=
  c.isAlphanum || c == '_' || c == '-'

/-- Whether a text can be the name of a field. -/
def isFieldName (s : String) : Bool := s != "" && s.toList.all isNameCharacter

/-- The name of a field after a map of names: without white space around it, and the default one if
that is no name. -/
def resolveName (names : Value) (field : Field) : String :=
  let candidate := trim (names.get field.key).textOrEmpty
  if isFieldName candidate then candidate else field.defaultName

/-- The names of all fields after a map of names. -/
def resolveNames (names : Value) : Value :=
  .record (Preferences.namingOrder.map fun field => (field.key, .text (resolveName names field)))

/-- Whether a field is written after a map of truth values, of which nothing else counts. -/
def resolveEnabledField (flags : Value) (field : Field) : Bool :=
  match flags.get field.key with
  | .bool b => b
  | _ => true

/-- Which fields are written after a map of truth values. -/
def resolveEnabled (flags : Value) : Value :=
  .record (Field.all.map fun field => (field.key, .bool (resolveEnabledField flags field)))

/-- The title template: any text that is not blank. -/
def resolveTitle : Value → String
  | .text s => if allBlank s then defaultTitle else s
  | _ => defaultTitle

/-- A list template: any text. -/
def resolveList (default : String) : Value → String
  | .text s => s
  | _ => default

/-- Reads settings from preferences; only a map, or a value that counts as false, has any. -/
def Settings.ofPreferences (preferences : Value) : Except Fault Settings := do
  let bag := preferences.orElse (.map [])
  let tags ← bag.field "frontmatterTagsTemplate"
  return {
    fieldNames := resolveNames (bag.get "frontmatterFieldNames")
    enabled := resolveEnabled (bag.get "frontmatterEnabledFields")
    titleTemplate := .text (resolveTitle (bag.get "frontmatterTitleTemplate"))
    tagsTemplate := .text (resolveList defaultTags tags)
    collectionsTemplate :=
      .text (resolveList defaultCollections (bag.get "frontmatterCollectionsTemplate")) }

end TabNotes.Frontmatter
