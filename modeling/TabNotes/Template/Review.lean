import TabNotes.Template.Parse

/-! # Reviewing templates

A review parses a template and looks through its text for what its author should know: raw tags,
other than one for the frontmatter block, and partials. -/

namespace TabNotes.Template

open TabNotes.Text

/-- Something to tell the author of a template. -/
inductive Warning where
  | tripleTag
  | ampersandTag
  | partialTag
deriving DecidableEq

/-- The wording of a warning. -/
def Warning.message : Warning → String
  | tripleTag =>
    "Triple mustaches (\x7b\x7b\x7b \x7d\x7d\x7d) bypass HTML escaping. " ++
      "Prefer standard \x7b\x7bvariable\x7d\x7d tags."
  | ampersandTag =>
    "Unescaped variables (\x7b\x7b& name\x7d\x7d) bypass HTML escaping. " ++
      "Prefer standard \x7b\x7bvariable\x7d\x7d tags."
  | partialTag => "Partials are not supported and will cause rendering errors."

/-- What a review finds. -/
structure Review where
  errors : List SyntaxFault
  warnings : List Warning

/-- The text after `opening`, optional white space, `word`, optional white space and `closing`. -/
def afterTag? (opening word closing : List Char) (cs : List Char) : Option (List Char) :=
  if opening.isPrefixOf cs then
    let cs := dropBlanks (cs.drop opening.length)
    if word.isPrefixOf cs then
      let cs := dropBlanks (cs.drop word.length)
      if closing.isPrefixOf cs then some (cs.drop closing.length) else none
    else none
  else none

/-- The name of the frontmatter block, which is raw by design. -/
def frontmatterName : List Char := "frontmatter".toList

/-- The text after a raw tag for the frontmatter block. -/
def afterFrontmatterTag? (cs : List Char) : Option (List Char) :=
  match afterTag? ['{', '{', '{'] frontmatterName tripleClose cs with
  | some rest => some rest
  | none => afterTag? ['{', '{', '&'] frontmatterName tagClose cs

/-- The text without the raw tags for the frontmatter block; `fuel` bounds the number of steps. -/
def withoutFrontmatterTags : (fuel : Nat) → List Char → List Char
  | 0, cs => cs
  | _, [] => []
  | fuel + 1, c :: cs =>
    match afterFrontmatterTag? (c :: cs) with
    | some rest => withoutFrontmatterTags fuel rest
    | none => c :: withoutFrontmatterTags fuel cs

/-- Whether two braces that follow no third one, optional white space and `>` occur in a text;
`afterBrace` tells whether a brace comes just before it. -/
def hasPartialTag (afterBrace : Bool) : List Char → Bool
  | [] => false
  | c :: cs =>
    (!afterBrace && c == '{' &&
      match cs with
      | '{' :: rest => (dropBlanks rest).head? == some '>'
      | _ => false) ||
      hasPartialTag (c == '{') cs

/-- Reviews a text as a template. -/
def reviewText (template : String) : Review :=
  let errors :=
    match parse template defaultDepth with
    | .ok _ => []
    | .error fault => [fault]
  let cs := template.toList
  let others := String.ofList (withoutFrontmatterTags cs.length cs)
  let tripleWarning :=
    if occursIn "\x7b\x7b\x7b" others then [Warning.tripleTag] else []
  let ampersandWarning :=
    if occursIn "\x7b\x7b&" others then [Warning.ampersandTag] else []
  if hasPartialTag false cs then
    { errors :=
        if errors.any fun fault => occursIn "Partials" fault.message then errors
        else errors ++ [.partialTag]
      warnings := tripleWarning ++ ampersandWarning ++ [.partialTag] }
  else
    { errors := errors
      warnings := tripleWarning ++ ampersandWarning }

/-- Reviews a value as a template; only texts are templates. -/
def review (template : Value) : Review :=
  match template with
  | .text s => reviewText s
  | _ => { errors := [.notText], warnings := [] }

end TabNotes.Template
