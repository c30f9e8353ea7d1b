import TabNotes.Template.Parse

/-! # Templates as lexemes

`lex` cuts a template into lexemes from left to right, without regard to sections:

* the text up to the next `{{`, which is never empty;
* after `{{{`, a name up to the next `}}}`;
* after any other `{{`, the text of a tag up to the next `}}`, which is left out if it is blank.

Names and the texts of tags come without the white space around them.  A tag that does not end is
the last lexeme.

`build` goes through lexemes once and keeps the open sections on a stack.  It stops at the first
lexeme that is out of place: a tag that does not end, a partial, a section without a name or nested
too deep, or a closing tag that does not fit the innermost open section. -/

namespace TabNotes.Template

open TabNotes.Text

/-! ### Lexemes -/

/-- A lexeme of a template. -/
inductive Lexeme where
  /-- The text between two tags. -/
  | literal (text : String)
  /-- A tag in triple braces. -/
  | triple (name : String)
  /-- A tag in double braces, by the first character of its text and the others. -/
  | tag (first : Char) (more : List Char)
  | unterminatedTriple
  | unterminatedTag

/-- The lexeme of the text between two tags, if there is any text. -/
def literalLexemes : List Char → List Lexeme
  | [] => []
  | c :: cs => [.literal (String.ofList (c :: cs))]

/-- The lexeme of a tag in double braces, if it is not blank. -/
def tagLexemes (inner : List Char) : List Lexeme :=
  match trimChars inner with
  | [] => []
  | first :: more => [.tag first more]

/-- What is read of a tag after its two opening braces, and the text after the tag if it ends. -/
def lexTag : List Char → List Lexeme × Option (List Char)
  | '{' :: cs =>
    match cutAt tripleClose cs with
    | some (inner, rest) => ([.triple (String.ofList (trimChars inner))], some rest)
    | none => ([.unterminatedTriple], none)
  | cs =>
    match cutAt tagClose cs with
    | some (inner, rest) => (tagLexemes inner, some rest)
    | none => ([.unterminatedTag], none)

theorem length_le_of_lexTag {cs rest : List Char} (h : (lexTag cs).2 = some rest) :
    rest.length ≤ cs.length := by
  unfold lexTag at h
  split at h
  · split at h
    · rename_i hcut
      obtain rfl := Option.some.inj h
      have := length_after_cutAt hcut
      simp only [List.length_cons]
      omega
    · cases h
  · split at h
    · rename_i hcut
      obtain rfl := Option.some.inj h
      have := length_after_cutAt hcut
      omega
    · cases h

/-- The lexemes of a text. -/
def lexChars (cs : List Char) : List Lexeme :=
  match _ : cutAt tagOpen cs with
  | none => literalLexemes cs
  | some (before, after) =>
    literalLexemes before ++ ((lexTag after).1 ++
      match _ : (lexTag after).2 with
      | none => []
      | some rest => lexChars rest)
termination_by cs.length
decreasing_by
  have hafter := length_after_cutAt ‹cutAt tagOpen cs = some (before, after)›
  have hrest := length_le_of_lexTag ‹(lexTag after).2 = some rest›
  simp only [tagOpen, List.length_cons, List.length_nil] at hafter
  omega

/-- The lexemes of a template. -/
def lex (template : String) : List Lexeme := lexChars template.toList

theorem lexChars_eq (cs : List Char) :
    lexChars cs =
      match cutAt tagOpen cs with
      | none => literalLexemes cs
      | some (before, after) =>
        literalLexemes before ++ ((lexTag after).1 ++ ((lexTag after).2.map lexChars).getD []) := by
  rw [lexChars]
  split
  · rename_i hcut
    rw [hcut]
  · rename_i before after hcut
    conv => rhs; rw [hcut]
    dsimp only
    split
    · rename_i htag
      rw [htag]
      rfl
    · rename_i rest htag
      conv => rhs; rw [htag]
      rfl

/-! ### The stack of open sections -/

/-- A section whose closing tag has not been read. -/
structure OpenSection where
  isInverted : Bool
  name : String
  children : List Token

/-- The section when it is closed. -/
def OpenSection.token (s : OpenSection) : Token :=
  if s.isInverted then .inverted s.name s.children else .block s.name s.children

/-- The tokens outside of all sections, and the open sections, the innermost first. -/
structure Machine where
  top : List Token
  stack : List OpenSection

namespace Machine

/-- Nothing read yet. -/
def start : Machine := ⟨[], []⟩

/-- Adds a token to the innermost open section. -/
def add (m : Machine) (token : Token) : Machine :=
  match m.stack with
  | [] => { m with top := m.top ++ [token] }
  | s :: outer => { m with stack := { s with children := s.children ++ [token] } :: outer }

/-- Opens a section; its name is checked before its depth. -/
def enter (limit : Int) (m : Machine) (isInverted : Bool) (name : String) :
    Except SyntaxFault Machine :=
  if name = "" then .error .missingName
  else if limit < m.stack.length + 1 then .error (.tooDeep limit)
  else .ok { m with stack := ⟨isInverted, name, []⟩ :: m.stack }

/-- Closes the innermost open section, which has to have the given name. -/
def leave (m : Machine) (name : String) : Except SyntaxFault Machine :=
  match m.stack with
  | [] => .error (.unexpectedClose name)
  | s :: outer =>
    if s.name = name then .ok (add { m with stack := outer } s.token)
    else .error (.unexpectedClose name)

/-- Does what a tag in double braces asks for. -/
def stepTag (limit : Int) (m : Machine) (first : Char) (more : List Char) :
    Except SyntaxFault Machine :=
  let name := String.ofList (trimChars more)
  match first with
  | '#' => m.enter limit false name
  | '^' => m.enter limit true name
  | '/' => m.leave name
  | '!' => .ok (m.add .comment)
  | '>' => .error .partialTag
  | '&' => .ok (m.add (.raw name))
  | _ => .ok (m.add (.escaped (String.ofList (first :: more))))

/-- Goes on by one lexeme. -/
def step (limit : Int) (m : Machine) : Lexeme → Except SyntaxFault Machine
  | .literal text => .ok (m.add (.text text))
  | .triple name => .ok (m.add (.raw name))
  | .tag first more => m.stepTag limit first more
  | .unterminatedTriple => .error .unterminatedTriple
  | .unterminatedTag => .error .unterminatedTag

/-- The tokens that were read, unless a section is still open. -/
def finish (m : Machine) : Except SyntaxFault (List Token) :=
  match m.stack with
  | [] => .ok m.top
  | s :: _ => .error (.notClosed s.name)

end Machine

/-- The tokens of lexemes, with sections that nest at most `limit` deep. -/
def build (lexemes : List Lexeme) (limit : Int) : Except SyntaxFault (List Token) := do
  let m ← lexemes.foldlM (Machine.step limit) Machine.start
  m.finish

end TabNotes.Template
