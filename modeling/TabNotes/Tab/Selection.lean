import TabNotes.Text.Blank
import TabNotes.Text.Search
import TabNotes.Value.Access

/-! # Selecting tabs

Pages of the browser itself, pinned tabs and tabs whose address holds a restricted part are left
out.  When more than one tab is highlighted, only highlighted ones are kept.

`select` works on lists; the functions on values are for callers that know less about what they
have, and refuse what is no list of tabs or restrictions. -/

namespace TabNotes.Tab

open TabNotes.Text

/-- How the addresses of pages of the browser itself begin. -/
def internalStarts : List String :=
  ["edge://", "chrome://", "chrome-extension://", "moz-extension://", "about:", "extension://"]

/-- Whether an address is that of a page of the browser itself. -/
def isInternal (url : String) : Bool := internalStarts.any fun start => beginsWith start url

/-- Whether a tab with the address is left out; the empty address is not restricted. -/
def isRestricted (restrictions : List String) (url : String) : Bool :=
  url != "" && (isInternal url ||
    restrictions.any fun part => part != "" && occursIn part url)

/-- The restrictions among some values: the texts that are not blank. -/
def usableRestrictions (entries : List Value) : List String :=
  entries.filterMap fun entry =>
    match entry with
    | .text s => if allBlank s then none else some s
    | _ => none

/-- Whether a tab takes part in an export. -/
def isExported (restrictions : List String) (onlyHighlighted : Bool) (tab : Value) : Bool :=
  tab.isMap && !(tab.get "pinned").isTrue &&
    !isRestricted restrictions (tab.get "url").textOrEmpty &&
    (!onlyHighlighted || (tab.get "highlighted").isTrue)

/-- Whether a tab is highlighted. -/
def isHighlighted (tab : Value) : Bool := tab.isMap && (tab.get "highlighted").isTrue

/-- Whether more than one tab is highlighted, so that only such tabs are kept. -/
def hasSelection (tabs : List Value) : Bool := 1 < (tabs.filter isHighlighted).length

/-- The tabs that take part in an export. -/
def select (tabs restrictions : List Value) : List Value :=
  tabs.filter (isExported (usableRestrictions restrictions) (hasSelection tabs))

/-! ### Values of unknown shape -/

/-- The restrictions among the items of a value. -/
def usableRestrictionsOf (entries : Value) : Except Fault (List String) := do
  return usableRestrictions (← entries.itemsIfTrue)

/-- Whether one of some values is a part of an address; a value that counts as false is none, and
any other than a text is refused. -/
def anyPartOccurs (url : String) : List Value → Except Fault Bool
  | [] => .ok false
  | part :: parts =>
    if part.isTrue then
      match part with
      | .text s => if occursIn s url then .ok true else anyPartOccurs url parts
      | v => .error (.notSearchable v.typeName)
    else anyPartOccurs url parts

/-- Whether a tab with the address is left out; the restrictions are the items of a value. -/
def isRestrictedBy (restrictions url : Value) : Except Fault Bool :=
  match url with
  | .text s =>
    if s == "" then .ok false
    else if isInternal s then .ok true
    else do
      let parts ← restrictions.items
      anyPartOccurs s parts
  | _ => .ok false

/-- Whether a tab takes part in an export; the restrictions are the items of a value. -/
def isExportedBy (restrictions onlyHighlighted tab : Value) : Except Fault Bool := do
  if !tab.isMap then return false
  if (tab.get "pinned").isTrue then return false
  let parts ← restrictions.items
  if ← isRestrictedBy (.ofList parts) ((tab.get "url").orElse (.text "")) then return false
  return !onlyHighlighted.isTrue || (tab.get "highlighted").isTrue

/-- The tabs among the items of a value that take part in an export. -/
def selectFrom (tabs restrictions : Value) : Except Fault (List Value) := do
  let tabs ← tabs.itemsIfTrue
  let entries ← restrictions.itemsIfTrue
  return select tabs entries

end TabNotes.Tab
