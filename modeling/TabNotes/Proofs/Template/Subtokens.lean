import TabNotes.Template.Token

/-! # The tokens of a token tree

`allTokens` lists the tokens of a tree at every depth, a section before its children. -/

namespace TabNotes.Template

mutual

/-- A token and the tokens in it. -/
def Token.subtokens : Token → List Token
  | .block name children => .block name children :: allTokens children
  | .inverted name children => .inverted name children :: allTokens children
  | token => [token]

/-- The tokens of a tree at every depth. -/
def allTokens : List Token → List Token
  | [] => []
  | token :: tokens => token.subtokens ++ allTokens tokens

end

theorem allTokens_append (ts more : List Token) :
    allTokens (ts ++ more) = allTokens ts ++ allTokens more := by
  induction ts with
  | nil => rfl
  | cons token ts ih => rw [List.cons_append, allTokens, allTokens, ih, List.append_assoc]

end TabNotes.Template
