import TabNotes.Fault
import TabNotes.Template.Token
import TabNotes.Text.Blank
import TabNotes.Text.Search

/-! # Parsing templates

A tag runs from `{{` to the next `}}`, a triple tag from `{{{` to the next `}}}`; what stands
between, without the white space around it, says what the tag is.

* `{{{name}}}` and `{{&name}}` write a value as it is, `{{name}}` writes it escaped.
* `{{#name}}` and `{{^name}}` open a section and an inverted section, which `{{/name}}` closes.
* `{{!text}}` is a comment; a blank tag is dropped; a partial, `{{>name}}`, is refused.

`parseItems` reads tokens up to the closing tag of the section it is in, and hands back the rest of
the text.  Faults come in the order of the text: an open section without its closing tag is found
only at the end, and a section's name is checked before its depth.

Any depth that a caller allows can be reached here: the recursion limit of an interpreter, which stops
templates far deeper than the usual depth allows, is not modelled.  Its limit on the digits of an
integer is, as a fault of rendering. -/

namespace TabNotes.Template

open TabNotes.Text

/-- What a tag asks for. -/
inductive Tag where
  /-- Tokens that stand for themselves; none for a blank tag. -/
  | leaf (tokens : List Token)
  | opening (isInverted : Bool) (name : String)
  | closing (name : String)
  | partialTag

/-- The tag with the given text between its double braces. -/
def Tag.ofInner (inner : List Char) : Tag :=
  match trimChars inner with
  | [] => .leaf []
  | sigil :: cs =>
    let content := String.ofList (trimChars cs)
    if sigil == '!' then .leaf [.comment]
    else if sigil == '>' then .partialTag
    else if sigil == '/' then .closing content
    else if sigil == '#' then .opening false content
    else if sigil == '^' then .opening true content
    else if sigil == '&' then .leaf [.raw content]
    else .leaf [.escaped (String.ofList (sigil :: cs))]

/-- What opens a tag. -/
def tagOpen : List Char := ['{', '{']

/-- What closes a tag. -/
def tagClose : List Char := ['}', '}']

/-- What closes a triple tag. -/
def tripleClose : List Char := ['}', '}', '}']

/-- Reads a tag after its two opening braces; returns the text after the tag. -/
def readTag (cs : List Char) : Except SyntaxFault (Tag × List Char) :=
  match cs with
  | '{' :: cs =>
    match cutAt tripleClose cs with
    | some (inner, rest) => .ok (.leaf [.raw (String.ofList (trimChars inner))], rest)
    | none => .error .unterminatedTriple
  | cs =>
    match cutAt tagClose cs with
    | some (inner, rest) => .ok (.ofInner inner, rest)
    | none => .error .unterminatedTag

theorem length_rest_le_of_readTag {cs rest : List Char} {tag : Tag}
    (h : readTag cs = .ok (tag, rest)) : rest.length ≤ cs.length := by
  unfold readTag at h
  split at h
  · split at h
    · rename_i hcut
      simp only [Except.ok.injEq, Prod.mk.injEq] at h
      obtain ⟨-, rfl⟩ := h
      have := length_after_cutAt hcut
      simp only [List.length_cons]
      omega
    · cases h
  · split at h
    · rename_i hcut
      simp only [Except.ok.injEq, Prod.mk.injEq] at h
      obtain ⟨-, rfl⟩ := h
      have := length_after_cutAt hcut
      omega
    · cases h

/-- The token of the text between two tags; there is none for the empty text. -/
def literal (cs : List Char) : List Token :=
  if cs.isEmpty then [] else [.text (String.ofList cs)]

/-- A section with its children. -/
def section? (isInverted : Bool) (name : String) (children : List Token) : Token :=
  if isInverted then .inverted name children else .block name children

/-- Reads tokens up to the end of the text, or up to the closing tag of the section `stop`; `depth`
counts the open sections.  Returns what follows that closing tag. -/
def parseItems (limit : Int) (stop : Option String) (depth : Nat) (cs : List Char) :
    Except SyntaxFault (List Token × { rest : List Char // rest.length ≤ cs.length }) :=
  match hcut : cutAt tagOpen cs with
  | none =>
    match stop with
    | some name => .error (.notClosed name)
    | none => .ok (literal cs, ⟨[], Nat.zero_le _⟩)
  | some (before, after) =>
    have hafter : after.length < cs.length := by
      have := length_after_cutAt hcut
      simp only [tagOpen, List.length_cons, List.length_nil] at this
      omega
    match htag : readTag after with
    | .error fault => .error fault
    | .ok (tag, rest) =>
      have hrest : rest.length < cs.length :=
        Nat.lt_of_le_of_lt (length_rest_le_of_readTag htag) hafter
      match tag with
      | .partialTag => .error .partialTag
      | .closing name =>
        if stop = some name then .ok (literal before, ⟨rest, Nat.le_of_lt hrest⟩)
        else .error (.unexpectedClose name)
      | .leaf tokens =>
        match parseItems limit stop depth rest with
        | .error fault => .error fault
        | .ok (more, ⟨left, hleft⟩) =>
          .ok (literal before ++ tokens ++ more, ⟨left, by omega⟩)
      | .opening isInverted name =>
        if name = "" then .error .missingName
        else if limit < depth + 1 then .error (.tooDeep limit)
        else
          match parseItems limit (some name) (depth + 1) rest with
          | .error fault => .error fault
          | .ok (children, ⟨inner, hinner⟩) =>
            match parseItems limit stop depth inner with
            | .error fault => .error fault
            | .ok (more, ⟨left, hleft⟩) =>
              .ok (literal before ++ section? isInverted name children :: more, ⟨left, by omega⟩)
termination_by cs.length

/-- Parses a template whose sections nest at most `limit` deep. -/
def parse (template : String) (limit : Int) : Except SyntaxFault (List Token) :=
  (parseItems limit none 0 template.toList).map Prod.fst

/-- Parses a value as a template; only texts are templates. -/
def parseValue (template : Value) (limit : Int) : Except SyntaxFault (List Token) :=
  match template with
  | .text s => parse s limit
  | _ => .error .notText

end TabNotes.Template
