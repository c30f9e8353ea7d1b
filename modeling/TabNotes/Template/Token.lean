import TabNotes.Value.Basic

/-! # Template tokens

A parsed template is a list of tokens.  Sections hold the tokens between their two tags. -/

namespace TabNotes.Template

/-- A token of a template. -/
inductive Token where
  /-- Text to copy. -/
  | text (value : String)
  /-- A value to write with its markup characters escaped. -/
  | escaped (name : String)
  /-- A value to write as it is. -/
  | raw (name : String)
  /-- A section: rendered once for each item of a list, or once for any other true value. -/
  | block (name : String) (children : List Token)
  /-- An inverted section: rendered once for a false value. -/
  | inverted (name : String) (children : List Token)
  | comment
  /-- A value that stands where a token should; no parsed template has one. -/
  | foreign (value : Value)

instance : Inhabited Token := ⟨.comment⟩

/-- The deepest nesting of sections in a template, unless the caller says otherwise. -/
def defaultDepth : Int := 64

end TabNotes.Template
