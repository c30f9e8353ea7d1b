import TabNotes.Proofs.Template.PartialMarks
import TabNotes.Proofs.Template.Stopping

/-! # Partials that stop the parser

The parser opens a tag at the leftmost two braces after the tag before it, so that no third brace
comes just before a tag that it opens, and the white space that it trims in a tag is the white space
that a review skips.  Hence the partial that stops the parser is one that a review finds
(`Stops.hasPartialTag`), and the review reports it once and warns of it
(`review_of_partial_fault`). -/

namespace TabNotes.Template

open TabNotes.Text

variable {limit : Int} {stop : Option String} {depth : Nat} {cs before after rest inner : List Char}
  {fault : SyntaxFault}

/-- The text of a partial begins with its sigil after white space. -/
theorem head?_dropBlanks_of_ofInner (h : Tag.ofInner inner = .partialTag) :
    (dropBlanks inner).head? = some '>' := by
  rcases ofInner_cases inner with
      hw | ⟨c, cs, htrim, hw | ⟨hw, rfl⟩ | hw | ⟨_, hw⟩ | hw | ⟨-, hw⟩⟩ <;>
    rw [hw] at h <;> cases h
  obtain ⟨more, hmore⟩ : '>' :: cs <+: dropBlanks inner :=
    htrim ▸ dropTrailingBlanks_isPrefix _
  rw [← hmore]
  rfl

theorem goesOnAsPartial_of_readTag (htag : readTag after = .ok (.partialTag, rest)) :
    goesOnAsPartial ('{' :: after) = true := by
  unfold readTag at htag
  split at htag
  · split at htag <;> cases htag
  · split at htag
    · rename_i inner _ hcut
      obtain ⟨hinner, -⟩ := Prod.mk.inj (Except.ok.inj htag)
      rw [cutAt_eq_some hcut, List.append_assoc]
      change ((dropBlanks (inner ++ '}' :: '}' :: _)).head? == some '>') = true
      rw [head?_dropBlanks_append, head?_dropBlanks_of_ofInner hinner]
      rfl
    · cases htag

/-- A fault of a tag that does not end is no partial. -/
theorem readTag_ne_error_partialTag (cs : List Char) : readTag cs ≠ .error .partialTag := by
  intro h
  unfold readTag at h
  split at h <;> split at h <;> cases h

/-- A partial that stops the parser is found in the text. -/
theorem Stops.hasPartialTag (h : Stops limit stop depth cs .partialTag) :
    hasPartialTag false cs = true := by
  generalize hfault : SyntaxFault.partialTag = fault at h
  induction h with
  | unterminated hcut htag => exact absurd (hfault ▸ htag) (readTag_ne_error_partialTag _)
  | partialTag hcut htag =>
      obtain ⟨hcs, hinf, hlast⟩ := cutAt_tagOpen_eq_some_iff.mp hcut
      rw [hcs]
      refine (hasPartialTag_before hinf hlast fun _ => rfl).trans ?_
      rw [hasPartialTag_cons]
      simp [goesOnAsPartial_of_readTag htag]
  | leaf hcut htag _ ih =>
      obtain ⟨inner, -, hfound⟩ := hasPartialTag_of_cut hcut htag (by simp)
      rw [hfound, ih hfault, Bool.or_true]
  | inside hcut htag _ _ _ ih =>
      obtain ⟨inner, -, hfound⟩ := hasPartialTag_of_cut hcut htag (by simp)
      rw [hfound, ih hfault, Bool.or_true]
  | afterSection hcut htag _ _ hchildren _ ih =>
      obtain ⟨inner, -, hfound⟩ := hasPartialTag_of_cut hcut htag (by simp)
      obtain ⟨texts, -, hinside⟩ := hchildren.hasPartialTag_eq
      rw [hfound, hinside, ih hfault, Bool.or_true, Bool.or_true]
  | _ => cases hfault

theorem head?_toList_append (s t u : String) (hs : s ≠ "") :
    (s ++ t ++ u).toList.head? = s.toList.head? := by
  have hne : s.toList ≠ [] := fun h => hs (String.toList_eq_nil_iff.mp h)
  rw [String.toList_append, String.toList_append, List.append_assoc,
    List.head?_append_of_ne_nil _ hne]

/-- No other fault is worded like that of a partial. -/
theorem eq_partialTag_of_message (h : fault.message = SyntaxFault.partialTag.message) :
    fault = .partialTag := by
  have hhead : fault.message.toList.head? = some 'P' := by
    rw [h]
    rfl
  cases fault with
  | partialTag => rfl
  | unexpectedClose name =>
      have hother := head?_toList_append "Unexpected closing tag for \"" name "\"." (by decide)
      exact absurd (hother.symm.trans hhead) (by decide)
  | tooDeep limit =>
      have hother := head?_toList_append "Sections are nested deeper than " (toString limit)
        " levels." (by decide)
      exact absurd (hother.symm.trans hhead) (by decide)
  | notClosed name =>
      have hother := head?_toList_append "Section \"" name "\" was not closed." (by decide)
      exact absurd (hother.symm.trans hhead) (by decide)
  | _ => exact absurd hhead (by decide)

/-- When the parser stops at a partial, a review has that one error and warns of partials. -/
theorem review_of_partial_fault {template : Value}
    (h : parseValue template defaultDepth = .error fault)
    (hmessage : fault.message = "Partials are not supported in templates.") :
    (review template).errors = [fault] ∧ .partialTag ∈ (review template).warnings := by
  obtain rfl := eq_partialTag_of_message hmessage
  cases template with
  | text s =>
      have hparse : parse s defaultDepth = .error .partialTag := h
      have hfound := (parse_eq_error_iff.mp hparse).hasPartialTag
      have hworded : ([.partialTag] : List SyntaxFault).any
          (fun fault => occursIn "Partials" fault.message) = true := by decide
      rw [review, reviewText, hparse]
      dsimp only
      rw [if_pos hfound, if_pos hworded]
      exact ⟨rfl, List.mem_append_right _ (List.mem_singleton_self _)⟩
  | _ => cases h

/-- A partial in a section, with a brace and a no-break space around its own braces. -/
def partialInSection : String :=
  valueTag "#items" ++ "\x7d" ++ valueTag "\u00a0> header" ++ valueTag "/items"

theorem review_of_partial_fault_inSection :
    parseValue (.text partialInSection) defaultDepth = .error .partialTag ∧
      SyntaxFault.partialTag.message = "Partials are not supported in templates." ∧
      (review (.text partialInSection)).errors = [.partialTag] ∧
      .partialTag ∈ (review (.text partialInSection)).warnings := by
  have hparse : parseValue (.text partialInSection) defaultDepth = .error .partialTag :=
    parse_eq_error_iff.mpr (.inside rfl rfl (by decide) (by decide) (.partialTag rfl rfl))
  exact ⟨hparse, rfl, review_of_partial_fault hparse rfl⟩

end TabNotes.Template
