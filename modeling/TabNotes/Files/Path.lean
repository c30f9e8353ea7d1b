import TabNotes.Text.Search

/-! # Paths

A path is a start and the names that follow it.  Between slashes, nothing and a single dot are no
names; two dots are kept, since only a file tree can tell where they lead.  A path without names
stands for its start. -/

namespace TabNotes.Files

open TabNotes.Text

/-- Where a path starts: at the working directory or at the root, which two slashes also name. -/
inductive Start where
  | here
  | root
  | doubleRoot
deriving DecidableEq

/-- A path. -/
structure Path where
  start : Start
  names : List String
deriving DecidableEq

/-- The names from the root down to a place in a file tree. -/
abbrev Location := List String

/-- The name of the directory above. -/
def above : String := ".."

namespace Start

/-- The start of a path by its leading slashes. -/
def ofChars : List Char → Start
  | '/' :: '/' :: '/' :: _ => root
  | '/' :: '/' :: _ => doubleRoot
  | '/' :: _ => root
  | _ => here

/-- A start as it is written. -/
def text : Start → String
  | here => ""
  | root => "/"
  | doubleRoot => "//"

end Start

namespace Path

/-- The names between the slashes of a text. -/
def namesOf (s : String) : List String :=
  (splitOnChar '/' s).filter fun name => name != "" && name != "."

/-- Reads a path. -/
def ofText (s : String) : Path := ⟨.ofChars s.toList, namesOf s⟩

/-- A path as it is written. -/
def text (p : Path) : String :=
  if p.start == .here && p.names.isEmpty then "."
  else p.start.text ++ String.intercalate "/" p.names

/-- The path of the root, or of a place below it. -/
def ofLocation (location : Location) : Path := ⟨.root, location⟩

/-- The path without its last name. -/
def parent (p : Path) : Path := { p with names := p.names.dropLast }

/-- The path of a name in the directory of a path. -/
def child (p : Path) (name : String) : Path := { p with names := p.names ++ [name] }

/-- The place from where the names of a path lead on. -/
def origin (p : Path) (workingDirectory : Location) : Location :=
  match p.start with
  | .here => workingDirectory
  | _ => []

/-- Follows a name without looking at a file tree. -/
def follow (location : Location) (name : String) : Location :=
  if name == above then location.dropLast else location ++ [name]

/-- The path from the root that a path stands for if every name on it is that of a directory. -/
def absolute (p : Path) (workingDirectory : Location) : Path :=
  .ofLocation (p.names.foldl follow (p.origin workingDirectory))

/-- Puts a home directory in place of a first name that begins with a tilde and goes on with the
name of a user, or with nothing for the user who asks.  There is no path when the home is not
known. -/
def expandHome (homeOf : String → Option String) (p : Path) : Option Path :=
  match p.start, p.names with
  | .here, name :: names =>
    match name.toList with
    | '~' :: user => do
      let home ← homeOf (String.ofList user)
      if beginsWith "~" home then none
      else
        let start := ofText (if home == "" then "/" else home)
        return { start with names := start.names ++ names }
    | _ => some p
  | _, _ => some p

end Path

end TabNotes.Files
