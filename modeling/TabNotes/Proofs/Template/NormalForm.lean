import TabNotes.Proofs.Text.Blank
import TabNotes.Template.Parse
import TabNotes.Template.TagText

/-! # Normal forms and the text of tokens

`Normal d ts` says which token lists templates can have: literal texts without a tag in them, names
that a tag can hold, and sections that nest at most `d` deep.  `textOf` writes tokens as a template,
with one space on each side of a name, and a blank tag between two texts that stand side by side. -/

namespace TabNotes.Template

open TabNotes.Text

/-! ### What tags can hold -/

/-- The characters that give a tag another meaning than a value. -/
def sigils : List Char := ['#', '^', '/', '!', '>', '&']

/-- A text that stands between tags. -/
def IsLiteral (s : String) : Prop := s ≠ "" ∧ ¬ tagOpen <:+: s.toList

/-- A name between double braces. -/
def IsTagName (name : String) : Prop :=
  name ≠ "" ∧ IsTrimmed name.toList ∧ ¬ tagClose <:+: name.toList

/-- A name between double braces that does not begin like another tag. -/
def IsVariableName (name : String) : Prop :=
  IsTagName name ∧ ∀ c ∈ name.toList.head?, c ∉ sigils

/-- A name between triple braces, which may be empty. -/
def IsRawName (name : String) : Prop :=
  IsTrimmed name.toList ∧ ¬ tripleClose <:+: name.toList

/-! ### Normal forms -/

/-- A text that ends in a brace, which would become part of a tag after it. -/
def Token.EndsInBrace : Token → Prop
  | .text s => s.toList.getLast? = some '{'
  | _ => False

mutual

/-- A token that a template can have. -/
def Token.IsWritten : Token → Prop
  | .text s => IsLiteral s
  | .escaped name => IsVariableName name
  | .raw name => IsRawName name
  | .block name children => IsTagName name ∧ AllWritten false children
  | .inverted name children => IsTagName name ∧ AllWritten false children
  | .comment => True
  | .foreign _ => False

/-- Tokens that a template can have, or a section of it; only the last token of a template may end
in a brace. -/
def AllWritten (isTop : Bool) : List Token → Prop
  | [] => True
  | token :: tokens =>
    token.IsWritten ∧ (token.EndsInBrace → isTop = true ∧ tokens = []) ∧ AllWritten isTop tokens

end

instance (s : String) : Decidable (IsLiteral s) := inferInstanceAs (Decidable (_ ∧ _))
instance (name : String) : Decidable (IsTagName name) := inferInstanceAs (Decidable (_ ∧ _))
instance (name : String) : Decidable (IsVariableName name) :=
  @instDecidableAnd _ _ inferInstance (Option.decidableForallMem _)
instance (name : String) : Decidable (IsRawName name) := inferInstanceAs (Decidable (_ ∧ _))

instance Token.decidableEndsInBrace : ∀ token : Token, Decidable token.EndsInBrace
  | .text s => inferInstanceAs (Decidable (s.toList.getLast? = some '{'))
  | .escaped _ | .raw _ | .block _ _ | .inverted _ _ | .comment | .foreign _ =>
    inferInstanceAs (Decidable False)

mutual

instance Token.decidableIsWritten : ∀ token : Token, Decidable token.IsWritten
  | .text s => inferInstanceAs (Decidable (IsLiteral s))
  | .escaped name => inferInstanceAs (Decidable (IsVariableName name))
  | .raw name => inferInstanceAs (Decidable (IsRawName name))
  | .block name children | .inverted name children =>
    haveI := decidableAllWritten false children
    inferInstanceAs (Decidable (IsTagName name ∧ AllWritten false children))
  | .comment => inferInstanceAs (Decidable True)
  | .foreign _ => inferInstanceAs (Decidable False)

instance decidableAllWritten (isTop : Bool) : ∀ ts : List Token, Decidable (AllWritten isTop ts)
  | [] => inferInstanceAs (Decidable True)
  | token :: tokens =>
    haveI := Token.decidableIsWritten token
    haveI := decidableAllWritten isTop tokens
    haveI : Decidable (tokens = []) := decidable_of_iff _ List.isEmpty_iff
    inferInstanceAs (Decidable (token.IsWritten ∧
      (token.EndsInBrace → isTop = true ∧ tokens = []) ∧ AllWritten isTop tokens))

end

mutual

/-- How deep the sections of a token nest. -/
def Token.nesting : Token → Nat
  | .block _ children => nesting children + 1
  | .inverted _ children => nesting children + 1
  | _ => 0

/-- How deep sections nest. -/
def nesting : List Token → Nat
  | [] => 0
  | token :: tokens => max token.nesting (nesting tokens)

end

/-- The tokens of templates whose sections nest at most `d` deep. -/
def Normal (d : Nat) (ts : List Token) : Prop := AllWritten true ts ∧ nesting ts ≤ d

instance (d : Nat) (ts : List Token) : Decidable (Normal d ts) := inferInstanceAs (Decidable (_ ∧ _))

theorem allWritten_append {isTop : Bool} {ts more : List Token} (hts : AllWritten false ts)
    (hmore : AllWritten isTop more) : AllWritten isTop (ts ++ more) := by
  induction ts with
  | nil => exact hmore
  | cons token ts ih =>
      rw [AllWritten] at hts
      obtain ⟨htoken, hbrace, hts⟩ := hts
      rw [List.cons_append, AllWritten]
      exact ⟨htoken, fun h => absurd (hbrace h).1 (by simp), ih hts⟩

theorem nesting_append (ts more : List Token) :
    nesting (ts ++ more) = max (nesting ts) (nesting more) := by
  induction ts with
  | nil => simp [nesting]
  | cons token ts ih => simp only [List.cons_append, nesting, ih]; omega

/-! ### Writing tokens -/

/-- A name with one space on each side. -/
def padded (name : String) : String := " " ++ name ++ " "

theorem toList_padded (name : String) : (padded name).toList = ' ' :: (name.toList ++ [' ']) := by
  simp [padded]

/-- What keeps two texts apart that stand side by side. -/
def gap : Token → List Token → String
  | .text _, .text _ :: _ => valueTag " "
  | _, _ => ""

mutual

/-- The text of a token. -/
def Token.textOf : Token → String
  | .text s => s
  | .escaped name => valueTag (padded name)
  | .raw name => rawTag (padded name)
  | .block name children => sectionText (padded name) (textOf children)
  | .inverted name children => invertedText (padded name) (textOf children)
  | .comment => valueTag "!"
  | .foreign _ => ""

/-- Tokens as a template. -/
def textOf : List Token → String
  | [] => ""
  | token :: tokens => token.textOf ++ gap token tokens ++ textOf tokens

end

end TabNotes.Template
