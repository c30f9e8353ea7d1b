import TabNotes.Text.Blank
import TabNotes.Text.CaseFold
import TabNotes.Text.Search

/-! # Lists in frontmatter fields

A rendered field that holds a list is cut at commas and line breaks.  The pieces are taken without
the white space around them; blank ones are dropped, and so is a piece that equals an earlier one up
to case. -/

namespace TabNotes.Frontmatter

open TabNotes.Text

/-- The characters between the pieces of a list. -/
def isListCut (c : Char) : Bool := c == ',' || c == '\r' || c == '\n'

/-- Keeps the first of the pieces that are equal up to case; `seen` holds the folded forms of those
already kept. -/
def keepFirst (seen : List String) : List String → List String
  | [] => []
  | piece :: pieces =>
    let folded := caseFold piece
    if seen.contains folded then keepFirst seen pieces
    else piece :: keepFirst (folded :: seen) pieces

/-- The trimmed pieces of a rendered list that are not blank. -/
def listPieces (rendered : String) : List String :=
  ((splitBy isListCut rendered.toList).map fun piece => String.ofList (trimChars piece)).filter
    (· != "")

/-- The items of a rendered list. -/
def splitList (rendered : String) : List String := keepFirst [] (listPieces rendered)

end TabNotes.Frontmatter
