import TabNotes.Frontmatter.Items
import TabNotes.Frontmatter.Settings
import TabNotes.Notice
import TabNotes.Template.Render

/-! # The frontmatter block

The block stands between two lines `---` and has a line `name: value` for each enabled field, or
`name:` and one indented line per item for a list that is not empty.  Texts stand in double quotes,
with backslashes and quotes after a backslash and line breaks as `\n`.

A field template that fails is replaced by the default one, with a notice. -/

namespace TabNotes.Frontmatter

open TabNotes.Text TabNotes.Template TabNotes.Number

/-- A text in double quotes. -/
def quoteScalar (s : String) : String :=
  let escaped := replaceAll "\"" "\\\"" (replaceAll "\\" "\\\\" s)
  let oneBreak := replaceAll "\r" "\n" (replaceAll "\r\n" "\n" escaped)
  "\"" ++ replaceAll "\n" "\\n" oneBreak ++ "\""

/-- A value in double quotes; null is written as the empty text. -/
def scalar (v : Value) : Except Fault String :=
  match v with
  | .null => .ok (quoteScalar "")
  | v => do
    let s ← v.display
    return quoteScalar s

/-- A list of texts: `[]`, or one indented line for each. -/
def listText (items : List String) : String :=
  if items.isEmpty then "[]"
  else String.join (items.map fun item => "\n  - " ++ quoteScalar item)

/-- A list of values: `[]`, or one indented line for each. -/
def listOfValues (items : List Value) : Except Fault String := do
  let texts ← items.mapM scalar
  if texts.isEmpty then return "[]"
  else return String.join (texts.map ("\n  - " ++ ·))

/-- A field as it is written; a list that is not empty starts on the next line. -/
def fieldLine (name value : String) : String :=
  if beginsWith "\n" value then name ++ ":" ++ value else name ++ ": " ++ value

/-- Renders a field template, or the default one if it fails. -/
def renderField (template : Value) (default : String) (data : Value) : Report String :=
  Report.orDefault .fieldTemplateFailed (renderValue template data) (render default data)

/-- What the block is made from: the values for the templates and the parts of them that fields
take directly. -/
structure Source where
  data : Value
  exported : Value
  window : Value

/-- The source in a map with the entries `export`, `window` and `tabCount`. -/
def Source.of (data : Value) : Except Fault Source := do
  let exported ← data.field "export"
  let window ← data.field "window"
  return ⟨data, exported.orElse (.map []), window.orElse (.map [])⟩

/-- The text of a field that shows an entry of the export. -/
def exportedEntry (source : Source) (name : String) : Report String :=
  Report.ofResult do
    let v ← source.exported.field name
    scalar v

/-- The text of a field. -/
def fieldText (settings : Settings) (source : Source) : Field → Report String
  | .title => do
    let title ← renderField settings.titleTemplate defaultTitle source.data
    return quoteScalar (trim title)
  | .date => exportedEntry source "localDate"
  | .time => exportedEntry source "localTime"
  | .exportedAt => exportedEntry source "iso"
  | .tabCount => Report.ofResult do
    let count ← source.data.field "tabCount"
    let n ← (count.orElse (.int 0)).toInteger
    writeInteger n
  | .incognito => Report.ofResult do
    let flag ← source.window.field "incognito"
    return if flag.isTrue then "true" else "false"
  | .tags => do
    let rendered ← renderField settings.tagsTemplate defaultTags source.data
    return listText (splitList rendered)
  | .collections => do
    let rendered ← renderField settings.collectionsTemplate defaultCollections source.data
    return listText (splitList rendered)

/-- The names and texts of the enabled fields among the given ones. -/
def enabledFields (settings : Settings) (source : Source) :
    List Field → Report (List (String × String))
  | [] => return []
  | field :: fields => do
    let isOn ← Report.ofResult (settings.isEnabled (.text field.key))
    if isOn then
      let name ← Report.ofResult (settings.fieldName (.text field.key))
      let text ← fieldText settings source field
      let others ← enabledFields settings source fields
      return (← Report.ofResult name.display, text) :: others
    else
      enabledFields settings source fields

/-- The block with the given fields; there is none without fields. -/
def blockText (fields : List (String × String)) : String :=
  if fields.isEmpty then ""
  else
    String.intercalate "\n"
      (["---"] ++ (fields.map fun field => fieldLine field.1 field.2) ++ ["---"]) ++ "\n"

/-- Composes the frontmatter block from a map with the entries `export`, `window` and
`tabCount`. -/
def compose (data : Value) (settings : Settings) : Report String := do
  let source ← Report.ofResult (Source.of data)
  let fields ← enabledFields settings source Field.all
  return blockText fields

end TabNotes.Frontmatter
