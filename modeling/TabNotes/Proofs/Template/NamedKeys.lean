import TabNotes.Proofs.Template.Output
import TabNotes.Proofs.Template.Reading
import TabNotes.Proofs.Template.Subtokens
import TabNotes.Proofs.Text.Search

/-! # The keys that a template names

A tag names the first segment of its name; the bare name `.` names nothing, since it stands for the
innermost frame as a whole.  Two frames that differ only under a key that no tag names cannot be
told apart: `SameExcept` relates them, every lookup gives related values over related stacks
(`sameResult_lookup`), and what a tag makes of related values is the same.  So a template renders to
the same text, or fails in the same way, over two contexts that agree on every key that it names
(`render_congr_of_not_names`). -/

namespace TabNotes.Template

open TabNotes.Text

variable {key : String} {name : String} {v v' : Value} {frames frames' : List Value}
  {entries entries' : Entries}

/-! ### Names -/

/-- The name in a tag. -/
def Token.name? : Token → Option String
  | .escaped name | .raw name | .block name _ | .inverted name _ => some name
  | _ => none

/-- Whether a name begins with a key: the key is the first segment of the path. -/
def StartsAt (key name : String) : Prop := name ≠ "." ∧ (splitOnChar '.' name).head? = some key

/-- Whether a token names a key. -/
def Token.Names (token : Token) (key : String) : Prop :=
  ∃ name, token.name? = some name ∧ StartsAt key name

/-! ### Frames that differ under one key -/

/-- Maps that agree on every key but one. -/
def AgreeExcept (key : String) (entries entries' : Entries) : Prop :=
  ∀ other, other ≠ key → Entries.get? entries other = Entries.get? entries' other

/-- The same value, or two maps that agree on every key but one. -/
inductive SameExcept (key : String) : Value → Value → Prop where
  | same (v : Value) : SameExcept key v v
  | maps {entries entries' : Entries} (h : AgreeExcept key entries entries') :
      SameExcept key (.map entries) (.map entries')

/-- Stacks of such values. -/
abbrev SameFrames (key : String) (frames frames' : List Value) : Prop :=
  List.Forall₂ (SameExcept key) frames frames'

/-! ### Lookups -/

theorem follow_congr {segment : String} {path : List String} (hsegment : segment ≠ key)
    (h : SameExcept key v v') : follow (segment :: path) v = follow (segment :: path) v' := by
  cases h with
  | same v => rfl
  | maps hagree => rw [follow, follow, hagree segment hsegment]

theorem findPath_congr {segment : String} {path : List String} (hsegment : segment ≠ key)
    (h : SameFrames key frames frames') :
    findPath (segment :: path) frames = findPath (segment :: path) frames' := by
  induction h with
  | nil => rfl
  | cons hframe _ ih => rw [findPath, findPath, follow_congr hsegment hframe, ih]

/-- A name that does not begin with the key has related values over related stacks; only the bare
name, which gives a whole frame, can have different ones. -/
theorem sameResult_lookup (hname : ¬ StartsAt key name) (h : SameFrames key frames frames') :
    SameResult (SameExcept key) (lookup name frames) (lookup name frames') := by
  by_cases hbare : name = "."
  · subst hbare
    cases h with
    | nil => exact .ok (.same .null)
    | cons hframe _ =>
        cases hframe with
        | same => exact .of_eq rfl fun v _ => .same v
        | maps hagree => exact .ok (.maps hagree)
  · obtain ⟨segment, path, hpath⟩ : ∃ segment path, splitOnChar '.' name = segment :: path :=
      List.exists_cons_of_ne_nil (by simp [splitOnChar, splitBy_ne_nil])
    have hsegment : segment ≠ key := by
      rintro rfl
      exact hname ⟨hbare, by rw [hpath, List.head?_cons]⟩
    have hresolve : resolve name frames = resolve name frames' := by
      rw [resolve, resolve, if_neg (by simpa using hbare), if_neg (by simpa using hbare), hpath]
      exact findPath_congr hsegment h
    exact .of_eq (by rw [lookup, lookup, hresolve]) fun v _ => .same v

/-! ### Output -/

theorem valueText_congr (h : SameExcept key v v') : valueText v = valueText v' := by
  cases h with
  | same v => rfl
  | maps _ => rw [valueText, valueText]

theorem isShown_congr (h : SameExcept key v v') : isShown v = isShown v' := by
  cases h <;> rfl

theorem sectionOutput_congr {body : List Value → Except Fault String}
    (hbody : ∀ frames frames', SameFrames key frames frames' → body frames = body frames')
    (hv : SameExcept key v v') (h : SameFrames key frames frames') :
    sectionOutput body v frames = sectionOutput body v' frames' := by
  cases hv with
  | maps hagree => exact hbody _ _ (.cons (.maps hagree) h)
  | same v =>
      have hpush : ∀ item, body (item :: frames) = body (item :: frames') :=
        fun item => hbody _ _ (.cons (.same item) h)
      cases v with
      | list fixed items => simp only [sectionOutput, hpush]
      | map entries => exact hpush _
      | _ => simp only [sectionOutput, hbody _ _ h]

mutual

theorem Token.output_congr : ∀ (token : Token) {frames frames' : List Value},
    (∀ part ∈ token.subtokens, ¬ part.Names key) → SameFrames key frames frames' →
      token.output frames = token.output frames'
  | .text t, _, _, _, _ => by rw [Token.output, Token.output]
  | .comment, _, _, _, _ => by rw [Token.output, Token.output]
  | .escaped name, frames, frames', hnames, h => by
      have hname : ¬ StartsAt key name := fun hstart =>
        hnames (.escaped name) (by simp [Token.subtokens]) ⟨name, rfl, hstart⟩
      rw [Token.output, Token.output]
      exact (sameResult_lookup hname h).bind_eq fun v v' hv => by rw [valueText_congr hv]
  | .raw name, frames, frames', hnames, h => by
      have hname : ¬ StartsAt key name := fun hstart =>
        hnames (.raw name) (by simp [Token.subtokens]) ⟨name, rfl, hstart⟩
      rw [Token.output, Token.output]
      exact (sameResult_lookup hname h).bind_eq fun v v' hv => valueText_congr hv
  | .block name children, frames, frames', hnames, h => by
      have hname : ¬ StartsAt key name := fun hstart =>
        hnames (.block name children) (by simp [Token.subtokens]) ⟨name, rfl, hstart⟩
      have hchildren : ∀ part ∈ allTokens children, ¬ part.Names key :=
        fun part hpart => hnames part (List.mem_cons_of_mem _ hpart)
      rw [Token.output, Token.output]
      exact (sameResult_lookup hname h).bind_eq fun v v' hv =>
        sectionOutput_congr (fun _ _ hframes => output_congr children hchildren hframes) hv h
  | .inverted name children, frames, frames', hnames, h => by
      have hname : ¬ StartsAt key name := fun hstart =>
        hnames (.inverted name children) (by simp [Token.subtokens]) ⟨name, rfl, hstart⟩
      have hchildren : ∀ part ∈ allTokens children, ¬ part.Names key :=
        fun part hpart => hnames part (List.mem_cons_of_mem _ hpart)
      rw [Token.output, Token.output]
      exact (sameResult_lookup hname h).bind_eq fun v v' hv => by
        rw [isShown_congr hv, output_congr children hchildren h]
  | .foreign v, _, _, _, _ => by rw [Token.output, Token.output]

/-- Tokens that do not name a key have the same output over stacks that differ under that key. -/
theorem output_congr : ∀ (tokens : List Token) {frames frames' : List Value},
    (∀ part ∈ allTokens tokens, ¬ part.Names key) → SameFrames key frames frames' →
      output tokens frames = output tokens frames'
  | [], _, _, _, _ => by rw [output, output]
  | token :: tokens, frames, frames', hnames, h => by
      rw [allTokens, List.forall_mem_append] at hnames
      rw [output, output, Token.output_congr token hnames.1 h, output_congr tokens hnames.2 h]

end

/-- A template that parses, and in which no tag names a key, renders to the same text or fails in the
same way over any two maps that agree on every other key. -/
theorem render_congr_of_not_names {template : String} {ts : List Token}
    (hparse : parse template defaultDepth = .ok ts) (hkey : ∀ token ∈ allTokens ts, ¬ token.Names key)
    (h : AgreeExcept key entries entries') :
    render template (.map entries) = render template (.map entries') := by
  rw [render_eq, render_eq, hparse]
  exact output_congr ts hkey (.cons (.maps h) .nil)

/-- A template that goes into its whole context. -/
def wholeContext : String :=
  "\x7b\x7b#.\x7d\x7d\x7b\x7btitle\x7d\x7d\x7b\x7b.\x7d\x7d\x7b\x7b/.\x7d\x7d"

theorem render_congr_of_not_names_function :
    render wholeContext (.record [("title", .text "A"), ("secret", .function)]) = .ok "A" := by
  have hparse : parse wholeContext defaultDepth =
      .ok [.block "." [.escaped "title", .escaped "."]] := by
    rw [parse_eq_ok_iff]
    refine (?_ : Reads defaultDepth none 0 _ (literal [] ++
      (section? false "." (literal [] ++ ([.escaped "title"] ++ (literal [] ++ ([.escaped "."] ++
        literal [])))) :: literal [])) [])
    exact .opening rfl rfl (by decide) (by decide) (.leaf rfl rfl (.leaf rfl rfl (.close rfl rfl)))
      (.finish rfl)
  have hkey : ∀ token ∈ allTokens [.block "." [.escaped "title", .escaped "."]],
      ¬ token.Names "secret" := by
    have hstarts : ∀ name ∈ [".", "title"], ¬ StartsAt "secret" name := by
      simp only [StartsAt]
      decide
    rintro token htoken ⟨name, hname, hstart⟩
    refine hstarts name ?_ hstart
    simp only [allTokens, Token.subtokens, List.cons_append, List.nil_append, List.append_nil,
      List.mem_cons, List.not_mem_nil, or_false] at htoken
    rcases htoken with rfl | rfl | rfl <;> cases hname <;> simp
  have hagree : AgreeExcept "secret" [(.text "title", .text "A"), (.text "secret", .function)]
      [(.text "title", .text "A")] := by
    intro other hother
    simp [Entries.get?, Ne.symm hother]
  refine (render_congr_of_not_names hparse hkey hagree).trans ?_
  rw [render_eq, hparse]
  rfl

end TabNotes.Template
