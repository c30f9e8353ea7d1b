import TabNotes.Note.Context

/-! # Formatting notes

A note is the rendering of its template over its context.  Formats from before there were templates,
with single braces around `title` and `url`, are upgraded: they are the text of one tab.  A template
that fails is replaced by the default one, with a notice. -/

namespace TabNotes.Note

open TabNotes.Text TabNotes.Template TabNotes.Time TabNotes.Frontmatter

/-- A name in single braces. -/
def oldMark (name : String) : String := "\x7b" ++ name ++ "\x7d"

/-- Whether a format is from before there were templates. -/
def isOldFormat (format : String) : Bool :=
  !occursIn "\x7b\x7b" format &&
    (occursIn (oldMark "title") format || occursIn (oldMark "url") format)

/-- The template of an old format, in which a backslash with an `n` stands for a line break. -/
def templateOfOld (format : String) : String :=
  let body :=
    replaceAll "\\n" "\n" <|
      replaceAll (oldMark "url") (valueTag "url") <|
        replaceAll (oldMark "title") (valueTag "title") format
  rawTag "frontmatter" ++ "\n" ++ sectionText "tabs" body

/-- A format as a template. -/
def upgradeFormat (format : String) : String :=
  if isOldFormat format then templateOfOld format else format

/-- `upgradeFormat` for a value.  What shows no sign of an old format is kept as it is; of the
others only texts have a template. -/
def upgradeValue (format : Value) : Except Fault Value := do
  if ← format.holdsText "\x7b\x7b" then return format
  let hasTitle ← format.holdsText (oldMark "title")
  let hasUrl ← format.holdsText (oldMark "url")
  if hasTitle || hasUrl then return .text (templateOfOld (← format.asText "replace"))
  else return format

/-- The template that a value in the preferences stands for: the default one unless it is a text
that is not blank. -/
def resolveFormat (v : Value) : String :=
  match v with
  | .text s => if allBlank s then Preferences.defaultFormat else upgradeFormat s
  | _ => Preferences.defaultFormat

/-- A formatted note. -/
structure Formatted where
  markdown : String
  stamp : Stamp

/-- Formats the context of a note. -/
def formatContext (context : Context) (format : Value) : Report Formatted := do
  let value := context.toValue
  let markdown ←
    Report.orDefault .noteTemplateFailed (render (resolveFormat format) value)
      (render Preferences.defaultFormat value)
  return ⟨markdown, context.stamp⟩

/-- Formats tabs as a note. -/
def format (clock : Clock) (tabs : List Value) (format : Value) (options : Options) :
    Report Formatted := do
  let context ← Context.of clock tabs options
  formatContext context format

/-- Formats the items of a value as a note. -/
def formatValues (clock : Clock) (tabs format options : Value) (settings : Option Settings) :
    Report Formatted := do
  let context ← Context.ofValues clock tabs options settings
  formatContext context format

end TabNotes.Note
