import TabNotes.Text.Percent
import TabNotes.Value.Display

/-! # Links that make notes

An `obsidian://new` link asks the application to make a note.  Its parameters come in a fixed order,
each with its value percent-encoded; parameters that are absent or empty are left out. -/

namespace TabNotes.Obsidian

open TabNotes.Text

/-- The link without parameters. -/
def newNote : String := "obsidian://new"

/-- The link with the given parameters, of which those with an empty text are left out. -/
def linkText (parameters : List (String × String)) : String :=
  let present := parameters.filter fun p => p.2 != ""
  let query := String.intercalate "&" (present.map fun p => p.1 ++ "=" ++ Percent.encode p.2)
  if query == "" then newNote else newNote ++ "?" ++ query

/-- A note to make: its place, its content and how to make it. -/
structure Request where
  file : String
  vault : String
  content : String
  /-- Whether the content is on the clipboard. -/
  clipboard : Bool
  overwrite : Bool
  /-- Whether the application stays in the background. -/
  silent : Bool

/-- The parameter of a flag; an unset flag is left out. -/
def flagText (flag : Bool) : String := if flag then "true" else ""

/-- The parameters of a request in their order. -/
def Request.parameters (r : Request) : List (String × String) :=
  [("file", r.file), ("overwrite", flagText r.overwrite), ("vault", r.vault),
    ("clipboard", flagText r.clipboard), ("silent", flagText r.silent), ("content", r.content)]

/-- The link of a request. -/
def Request.link (r : Request) : String := linkText r.parameters

/-- The number of characters of a request's link. -/
def Request.totalLength (r : Request) : Nat := r.link.length

/-- The text of a value as a parameter: empty for null, lower case for truth values. -/
def parameterText (v : Value) : Except Fault String :=
  match v with
  | .null => .ok ""
  | .bool b => .ok (if b then "true" else "false")
  | v => v.display

/-- Reads a request from values; a content that is no text is left out. -/
def Request.ofValues (vault file content : Value) (clipboard overwrite silent : Bool) :
    Except Fault Request := do
  let file ← parameterText file
  let vault ← parameterText vault
  return ⟨file, vault, content.textOrEmpty, clipboard, overwrite, silent⟩

end TabNotes.Obsidian
