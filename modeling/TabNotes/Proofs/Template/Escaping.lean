import TabNotes.Proofs.Template.Output
import TabNotes.Proofs.Template.Subtokens
import TabNotes.Proofs.Text.Replace

/-! # Escaped tags write no markup

`IsEscaped` holds of the texts in which no angle bracket stands and every ampersand begins one of
the entities that escaping writes.  Escaping gives such a text for every string
(`isEscaped_escapeMarkup`), and putting such texts together gives one again (`IsEscaped.append`).
So the output of tokens without raw tags is one, over whatever values (`isEscaped_renderOver`). -/

namespace TabNotes.Template

open TabNotes.Text

variable {cs ds : List Char} {s : String} {frames : List Value} {v : Value}

/-- The characters that are escaped. -/
def markup : List Char := ['&', '<', '>']

/-- What they are escaped to. -/
def entities : List (List Char) :=
  [['&', 'a', 'm', 'p', ';'], ['&', 'l', 't', ';'], ['&', 'g', 't', ';']]

/-- No angle brackets, and ampersands only at the start of an entity. -/
structure IsEscaped (cs : List Char) : Prop where
  no_opening : '<' ∉ cs
  no_closing : '>' ∉ cs
  begins : ∀ before after, cs = before ++ '&' :: after → ∃ entity ∈ entities, entity <+: '&' :: after

theorem isEscaped_of_not_mem_markup (h : ∀ c ∈ cs, c ∉ markup) : IsEscaped cs where
  no_opening hmem := h '<' hmem (by decide)
  no_closing hmem := h '>' hmem (by decide)
  begins before after hcs := absurd (by decide) (h '&' (by simp [hcs]))

theorem isEscaped_entity {entity : List Char} (h : entity ∈ entities) : IsEscaped entity := by
  have hhead : ∃ tail, entity = '&' :: tail ∧ ∀ c ∈ tail, c ∉ markup := by
    simp only [entities, List.mem_cons, List.not_mem_nil, or_false] at h
    rcases h with rfl | rfl | rfl <;> exact ⟨_, rfl, by simp [markup]⟩
  obtain ⟨tail, rfl, htail⟩ := hhead
  have hplain := isEscaped_of_not_mem_markup htail
  refine ⟨by simp [hplain.no_opening], by simp [hplain.no_closing], fun before after heq => ?_⟩
  cases before with
  | nil => exact ⟨_, h, heq ▸ List.prefix_refl _⟩
  | cons c before => exact absurd (by decide) (htail '&' (by simp [(List.cons.inj heq).2]))

theorem IsEscaped.append (hcs : IsEscaped cs) (hds : IsEscaped ds) : IsEscaped (cs ++ ds) where
  no_opening := by simp [hcs.no_opening, hds.no_opening]
  no_closing := by simp [hcs.no_closing, hds.no_closing]
  begins before after heq := by
    rcases List.append_eq_append_iff.mp heq with ⟨between, rfl, hafter⟩ | ⟨between, hbefore, hafter⟩
    · exact hds.begins between after hafter
    · cases between with
      | nil =>
          obtain ⟨entity, hentity, hpre⟩ := hds.begins [] after hafter.symm
          exact ⟨entity, hentity, hpre⟩
      | cons c between =>
          rw [List.cons_append, List.cons.injEq] at hafter
          obtain ⟨rfl, rfl⟩ := hafter
          obtain ⟨entity, hentity, hpre⟩ := hcs.begins before between hbefore
          exact ⟨entity, hentity, hpre.trans (List.prefix_append ('&' :: between) ds)⟩

theorem isEscaped_nil : IsEscaped [] := isEscaped_of_not_mem_markup (by simp)

theorem isEscaped_flatMap {α : Type} {f : α → List Char} {xs : List α}
    (h : ∀ x ∈ xs, IsEscaped (f x)) : IsEscaped (xs.flatMap f) := by
  induction xs with
  | nil => exact isEscaped_nil
  | cons x xs ih =>
      rw [List.flatMap_cons]
      exact (h x List.mem_cons_self).append (ih fun y hy => h y (List.mem_cons_of_mem x hy))

/-! ### Escaping -/

/-- How a character is escaped. -/
def entityOf (c : Char) : List Char :=
  if c = '&' then ['&', 'a', 'm', 'p', ';']
  else if c = '<' then ['&', 'l', 't', ';']
  else if c = '>' then ['&', 'g', 't', ';']
  else [c]

/-- Ampersands are escaped first, so the three replacements escape every character once. -/
theorem toList_escapeMarkup (s : String) : (escapeMarkup s).toList = s.toList.flatMap entityOf := by
  have hreplace : (escapeMarkup s).toList =
      replaceAllChars ['>'] ['&', 'g', 't', ';'] (replaceAllChars ['<'] ['&', 'l', 't', ';']
        (replaceAllChars ['&'] ['&', 'a', 'm', 'p', ';'] s.toList)) := by
    simp only [escapeMarkup, replaceAll, String.toList_ofList]
    rfl
  rw [hreplace, replaceAllChars_singleton, replaceAllChars_singleton, replaceAllChars_singleton,
    List.flatMap_assoc, List.flatMap_assoc]
  refine congrArg (s.toList.flatMap ·) (funext fun c => ?_)
  unfold entityOf
  split
  · rfl
  · split
    · rename_i hlt
      rw [hlt]
      rfl
    · rename_i hlt
      simp [hlt]

theorem entityOf_of_not_mem_markup {c : Char} (h : c ∉ markup) : entityOf c = [c] := by
  simp_all [entityOf, markup]

theorem isEscaped_entityOf (c : Char) : IsEscaped (entityOf c) := by
  by_cases hc : c ∈ markup
  · refine isEscaped_entity ?_
    simp only [markup, List.mem_cons, List.not_mem_nil, or_false] at hc
    rcases hc with rfl | rfl | rfl <;> decide
  · rw [entityOf_of_not_mem_markup hc]
    exact isEscaped_of_not_mem_markup (by simpa using hc)

theorem isEscaped_escapeMarkup (s : String) : IsEscaped (escapeMarkup s).toList := by
  rw [toList_escapeMarkup]
  exact isEscaped_flatMap fun c _ => isEscaped_entityOf c

/-! ### Output -/

/-- A token that writes no markup of its own: no raw tag, and no text with characters to escape. -/
def Token.IsPlain : Token → Prop
  | .text s => ∀ c ∈ s.toList, c ∉ markup
  | .raw _ => False
  | _ => True

theorem isEscaped_join {parts : List String} (h : ∀ part ∈ parts, IsEscaped part.toList) :
    IsEscaped (String.join parts).toList := by
  rw [String.toList_join]
  exact isEscaped_flatMap h

theorem isEscaped_sectionOutput {body : List Value → Except Fault String}
    (hbody : ∀ frames s, body frames = .ok s → IsEscaped s.toList)
    (h : sectionOutput body v frames = .ok s) : IsEscaped s.toList := by
  unfold sectionOutput at h
  split at h
  · obtain ⟨parts, hparts, h⟩ := bind_eq_ok_iff.mp h
    cases h
    refine isEscaped_join fun part hpart => ?_
    obtain ⟨item, -, hitem⟩ := exists_of_mem_of_mapM hparts part hpart
    exact hbody (item :: frames) part hitem
  · exact hbody _ s h
  · split at h
    · exact hbody frames s h
    · cases h
      exact isEscaped_nil

mutual

theorem Token.isEscaped_output : ∀ (token : Token) {frames : List Value} {s : String},
    (∀ part ∈ token.subtokens, part.IsPlain) → token.output frames = .ok s → IsEscaped s.toList
  | .text t, frames, s, hplain, h => by
      rw [Token.output] at h
      cases h
      exact isEscaped_of_not_mem_markup (hplain (.text t) (by simp [Token.subtokens]))
  | .comment, frames, s, _, h => by
      rw [Token.output] at h
      cases h
      exact isEscaped_nil
  | .escaped name, frames, s, _, h => by
      rw [Token.output] at h
      obtain ⟨v, -, h⟩ := bind_eq_ok_iff.mp h
      obtain ⟨t, -, h⟩ := bind_eq_ok_iff.mp h
      obtain rfl := Except.ok.inj h
      exact isEscaped_escapeMarkup t
  | .raw name, frames, s, hplain, _ => absurd (hplain (.raw name) (by simp [Token.subtokens])) id
  | .block name children, frames, s, hplain, h => by
      rw [Token.output] at h
      obtain ⟨v, -, h⟩ := bind_eq_ok_iff.mp h
      have hchildren : ∀ part ∈ allTokens children, part.IsPlain :=
        fun part hpart => hplain part (List.mem_cons_of_mem _ hpart)
      exact isEscaped_sectionOutput (fun frames s => isEscaped_output children hchildren) h
  | .inverted name children, frames, s, hplain, h => by
      rw [Token.output] at h
      obtain ⟨v, -, h⟩ := bind_eq_ok_iff.mp h
      have hchildren : ∀ part ∈ allTokens children, part.IsPlain :=
        fun part hpart => hplain part (List.mem_cons_of_mem _ hpart)
      split at h
      · cases h
        exact isEscaped_nil
      · exact isEscaped_output children hchildren h
  | .foreign v, frames, s, _, h => by
      rw [Token.output] at h
      obtain ⟨shown, -, h⟩ := bind_eq_ok_iff.mp h
      simp at h

theorem isEscaped_output : ∀ (tokens : List Token) {frames : List Value} {s : String},
    (∀ part ∈ allTokens tokens, part.IsPlain) → output tokens frames = .ok s → IsEscaped s.toList
  | [], frames, s, _, h => by
      rw [output] at h
      cases h
      exact isEscaped_nil
  | token :: tokens, frames, s, hplain, h => by
      rw [allTokens, List.forall_mem_append] at hplain
      rw [output] at h
      obtain ⟨first, hfirst, h⟩ := bind_eq_ok_iff.mp h
      obtain ⟨rest, hrest, h⟩ := bind_eq_ok_iff.mp h
      cases h
      rw [String.toList_append]
      exact (Token.isEscaped_output token hplain.1 hfirst).append
        (isEscaped_output tokens hplain.2 hrest)

end

/-- Tokens without raw tags, whose texts hold nothing to escape, render over all frames to a text
without angle brackets in which every ampersand begins an entity. -/
theorem isEscaped_renderOver {tokens : List Token} (hraw : ∀ name, .raw name ∉ allTokens tokens)
    (htext : ∀ t, .text t ∈ allTokens tokens → ∀ c ∈ t.toList, c ∉ ['&', '<', '>'])
    (h : (renderOver tokens frames).1 = .ok s) :
    '<' ∉ s.toList ∧ '>' ∉ s.toList ∧ ∀ before after, s.toList = before ++ '&' :: after →
      ∃ entity ∈ ["&amp;", "&lt;", "&gt;"], entity.toList <+: '&' :: after := by
  rw [renderOver_eq] at h
  have hplain : ∀ part ∈ allTokens tokens, part.IsPlain := by
    intro part hpart
    cases part with
    | text t => exact htext t hpart
    | raw name => exact absurd hpart (hraw name)
    | _ => trivial
  obtain ⟨hlt, hgt, hbegins⟩ := isEscaped_output tokens hplain h
  refine ⟨hlt, hgt, fun before after hs => ?_⟩
  simpa [entities] using hbegins before after hs

theorem isEscaped_renderOver_items :
    (renderOver [.text "a ", .block "." [.escaped "."]] [.list false [.text "<b>", .text "&lt;"]]).1 =
        .ok "a &lt;b&gt;&amp;lt;" ∧
      '<' ∉ "a &lt;b&gt;&amp;lt;".toList ∧ '>' ∉ "a &lt;b&gt;&amp;lt;".toList ∧
      ∀ before after, "a &lt;b&gt;&amp;lt;".toList = before ++ '&' :: after →
        ∃ entity ∈ ["&amp;", "&lt;", "&gt;"], entity.toList <+: '&' :: after := by
  have hrender : (renderOver [.text "a ", .block "." [.escaped "."]]
      [.list false [.text "<b>", .text "&lt;"]]).1 = .ok "a &lt;b&gt;&amp;lt;" := by
    rfl
  refine ⟨hrender, isEscaped_renderOver (fun name => ?_) (fun t ht => ?_) hrender⟩
  · simp [allTokens, Token.subtokens]
  · obtain rfl : t = "a " := by simpa [allTokens, Token.subtokens] using ht
    simp

end TabNotes.Template
