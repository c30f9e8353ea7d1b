/-! # The text of tags

How tags are written in the templates that come with the library. -/

namespace TabNotes.Template

/-- A tag that writes a value escaped. -/
def valueTag (name : String) : String := "\x7b\x7b" ++ name ++ "\x7d\x7d"

/-- A tag that writes a value as it is. -/
def rawTag (name : String) : String := "\x7b\x7b\x7b" ++ name ++ "\x7d\x7d\x7d"

/-- A section with its two tags. -/
def sectionText (name body : String) : String :=
  valueTag ("#" ++ name) ++ body ++ valueTag ("/" ++ name)

/-- An inverted section with its two tags. -/
def invertedText (name body : String) : String :=
  valueTag ("^" ++ name) ++ body ++ valueTag ("/" ++ name)

end TabNotes.Template
