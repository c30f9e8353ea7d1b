import TabNotes.Template.Parse
import TabNotes.Value.Access

/-! # Rendering templates

Tokens are rendered over a stack of frames.  A name is looked up from the innermost frame outwards,
in the first frame that resolves the whole dotted path; what resolves nowhere is null.  A section
over a list pushes each item in turn, one over a map pushes the map, and the frame is popped again
whether or not its rendering succeeds.

The stack is the state of `Render`, so that what a run leaves behind can be seen. -/

namespace TabNotes.Template

open TabNotes.Text TabNotes.Number

/-! ### Text of values -/

/-- Writes `&`, `<` and `>` as entities. -/
def escapeMarkup (s : String) : String :=
  replaceAll ">" "&gt;" (replaceAll "<" "&lt;" (replaceAll "&" "&amp;" s))

mutual

/-- The text of a value in a rendered template: nothing for null and maps, whole doubles without a
point, lists with commas between their items. -/
def valueText : Value → Except Fault String
  | .null => .ok ""
  | .bool b => .ok (if b then "true" else "false")
  | .float x =>
    match toInt? x with
    | some n => writeInteger n
    | none => .ok (floatText x)
  | .list _ items => do
    let texts ← itemTexts items
    return String.intercalate "," texts
  | .map _ => .ok ""
  | .int n => writeInteger n
  | .text s => .ok s
  | .moment m => (Value.moment m).display
  | .zone offset => (Value.zone offset).display
  | .function => Value.function.display

/-- The texts of the items of a list. -/
def itemTexts : List Value → Except Fault (List String)
  | [] => .ok []
  | v :: vs => do
    let first ← valueText v
    let rest ← itemTexts vs
    return first :: rest

end

/-- Whether a section over a value is rendered; an empty map counts. -/
def isShown : Value → Bool
  | .map _ => true
  | v => v.isTrue

/-! ### Names -/

/-- Whether a segment of a path is a position in a list. -/
def isPosition (segment : String) : Bool :=
  segment != "" && segment.toList.all Char.isDigit

/-- Follows a path into a value: keys of maps and positions of lists. -/
def follow : List String → Value → Except Fault (Option Value)
  | [], v => .ok (some v)
  | segment :: path, .map entries =>
    match Entries.get? entries segment with
    | some v => follow path v
    | none => .ok none
  | segment :: path, .list _ items =>
    if isPosition segment then
      match readDigits segment.toList with
      | .error fault => .error fault
      | .ok i =>
        match items[i]? with
        | some v => follow path v
        | none => .ok none
    else .ok none
  | _ :: _, _ => .ok none

/-- The value of a path in the innermost frame that resolves all of it. -/
def findPath (path : List String) : (frames : List Value) → Except Fault (Option Value)
  | [] => .ok none
  | frame :: frames => do
    match ← follow path frame with
    | some v => return some v
    | none => findPath path frames

/-- The value of a name over a stack, the innermost frame first; `.` is that frame itself. -/
def resolve (name : String) (frames : List Value) : Except Fault (Option Value) :=
  if name == "." then .ok frames.head?
  else findPath (splitOnChar '.' name) frames

/-- The value of a name as tags use it: null when it does not resolve, and never a function. -/
def lookup (name : String) (frames : List Value) : Except Fault Value := do
  match ← resolve name frames with
  | none => return .null
  | some .function => .error (.template .functionValue)
  | some v => return v

/-! ### Tokens -/

/-- Rendering over a stack of frames, the innermost first. -/
abbrev Render := ExceptT Fault (StateM (List Value))

namespace Render

/-- A result that does not depend on the stack. -/
def ofResult {α : Type} (result : Except Fault α) : Render α := ExceptT.mk (pure result)

/-- The value of a name over the current stack. -/
def lookupName (name : String) : Render Value := do
  let frames ← get
  ofResult (lookup name frames)

/-- The text of the value of a name over the current stack. -/
def textOfName (name : String) : Render String := do
  let v ← lookupName name
  ofResult (valueText v)

/-- Refuses a value that stands where a token should. -/
def refuse (v : Value) : Render String := do
  let shown ← ofResult v.shown
  throw (.template (.unsupportedToken shown))

/-- Runs `body` with one more frame, which is popped again also after a fault. -/
def within {α : Type} (frame : Value) (body : Render α) : Render α :=
  ExceptT.mk do
    modify (frame :: ·)
    let result ← body.run
    modify List.tail
    return result

end Render

mutual

/-- Renders a token. -/
def renderToken : Token → Render String
  | .text s => pure s
  | .comment => pure ""
  | .escaped name => do
    let s ← Render.textOfName name
    return escapeMarkup s
  | .raw name => Render.textOfName name
  | .block name children => do
    let v ← Render.lookupName name
    match v with
    | .list _ items =>
      let parts ← items.mapM fun item => Render.within item (renderTokens children)
      return String.join parts
    | .map entries => Render.within (.map entries) (renderTokens children)
    | v => if isShown v then renderTokens children else pure ""
  | .inverted name children => do
    let v ← Render.lookupName name
    if isShown v then pure "" else renderTokens children
  | .foreign v => Render.refuse v

/-- Renders tokens one after the other. -/
def renderTokens : List Token → Render String
  | [] => pure ""
  | token :: tokens => do
    let first ← renderToken token
    let rest ← renderTokens tokens
    return first ++ rest

end

/-- Renders tokens over a stack; returns the stack that is left, too. -/
def renderOver (tokens : List Token) (frames : List Value) :
    Except Fault String × List Value :=
  (renderTokens tokens).run.run frames

/-- Renders a template with a context as the only frame. -/
def renderValue (template : Value) (context : Value) : Except Fault String :=
  match parseValue template defaultDepth with
  | .error fault => .error (.template (.malformed fault))
  | .ok tokens => (renderOver tokens [context]).1

/-- Renders a text as a template. -/
def render (template : String) (context : Value) : Except Fault String :=
  renderValue (.text template) context

end TabNotes.Template
