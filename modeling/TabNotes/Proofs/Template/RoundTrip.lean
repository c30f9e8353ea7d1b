import TabNotes.Proofs.Template.NormalForm
import TabNotes.Proofs.Template.Reading
import TabNotes.Proofs.Text.Search

/-! # Parsing and writing templates

The parser reads back every normal form from its text (`reads_textOf`) and gives nothing but normal
forms (`Reads.normal`).  So its results are exactly the normal forms, and writing and parsing again
changes no result (`parse_textOf_normal`). -/

namespace TabNotes.Template

open TabNotes.Text

variable {limit : Int} {stop : Option String} {depth : Nat} {cs before after rest left w : List Char}
  {name s : String} {ts tokens more : List Token} {isTop : Bool}

/-! ### Where tags begin and end -/

theorem cutAt_tagOpen_eq_some_iff :
    cutAt tagOpen cs = some (before, after) ↔
      cs = before ++ (tagOpen ++ after) ∧ ¬ tagOpen <:+: before ∧ before.getLast? ≠ some '{' :=
  cutAt_replicate_eq_some_iff (c := '{') (k := 2) (by decide)

theorem cutAt_tagClose_eq_some_iff :
    cutAt tagClose cs = some (before, after) ↔
      cs = before ++ (tagClose ++ after) ∧ ¬ tagClose <:+: before ∧ before.getLast? ≠ some '}' :=
  cutAt_replicate_eq_some_iff (c := '}') (k := 2) (by decide)

theorem cutAt_tripleClose_eq_some_iff :
    cutAt tripleClose cs = some (before, after) ↔
      cs = before ++ (tripleClose ++ after) ∧ ¬ tripleClose <:+: before ∧
        before.getLast? ≠ some '}' :=
  cutAt_replicate_eq_some_iff (c := '}') (k := 3) (by decide)

theorem readTag_double (hhead : w.head? ≠ some '{') (hclose : ¬ tagClose <:+: w)
    (hlast : w.getLast? ≠ some '}') : readTag (w ++ (tagClose ++ rest)) = .ok (.ofInner w, rest) := by
  have hcut : cutAt tagClose (w ++ (tagClose ++ rest)) = some (w, rest) :=
    cutAt_tagClose_eq_some_iff.mpr ⟨rfl, hclose, hlast⟩
  unfold readTag
  split
  · rename_i cs hcs
    cases w with
    | nil => simp [tagClose] at hcs
    | cons c w =>
        rw [List.cons_append, List.cons.injEq] at hcs
        exact absurd (by rw [hcs.1]; rfl) hhead
  · rw [hcut]

theorem readTag_triple (hclose : ¬ tripleClose <:+: w) (hlast : w.getLast? ≠ some '}') :
    readTag ('{' :: (w ++ (tripleClose ++ rest))) =
      .ok (.leaf [.raw (String.ofList (trimChars w))], rest) := by
  rw [readTag, cutAt_tripleClose_eq_some_iff.mpr ⟨rfl, hclose, hlast⟩]

/-- What a tag is that was read. -/
theorem readTag_eq_ok {tag : Tag} (h : readTag cs = .ok (tag, rest)) :
    (∃ w, ¬ tripleClose <:+: w ∧ tag = .leaf [.raw (String.ofList (trimChars w))]) ∨
      ∃ w, ¬ tagClose <:+: w ∧ tag = .ofInner w := by
  unfold readTag at h
  split at h
  · split at h
    · rename_i w _ hcut
      simp only [Except.ok.injEq, Prod.mk.injEq] at h
      exact .inl ⟨w, not_infix_before_cutAt (by simp [tripleClose]) hcut, h.1.symm⟩
    · cases h
  · split at h
    · rename_i w _ hcut
      simp only [Except.ok.injEq, Prod.mk.injEq] at h
      exact .inr ⟨w, not_infix_before_cutAt (by simp [tagClose]) hcut, h.1.symm⟩
    · cases h

/-! ### What stands in a tag -/

theorem ofInner_padded (h : IsVariableName name) :
    Tag.ofInner (padded name).toList = .leaf [.escaped name] := by
  obtain ⟨⟨hne, htrim, -⟩, hsigil⟩ := h
  rw [Tag.ofInner, toList_padded, trimChars_padded htrim]
  cases hcs : name.toList with
  | nil => exact absurd (String.toList_eq_nil_iff.mp hcs) hne
  | cons c cs =>
      have hc : c ∉ sigils := hsigil c (by simp [hcs])
      simp only [sigils, List.mem_cons, List.not_mem_nil, or_false, not_or] at hc
      obtain ⟨h1, h2, h3, h4, h5, h6⟩ := hc
      simp [h1, h2, h3, h4, h5, h6, ← hcs]

/-- A sigil in front of a padded name stays in front of the name. -/
theorem trimChars_sigil_padded {c : Char} (hc : isBlank c = false) (h : IsTagName name) :
    ∃ cs, trimChars (c :: (padded name).toList) = c :: cs ∧ String.ofList (trimChars cs) = name := by
  obtain ⟨hne, htrim, -⟩ := h
  have hpad : c :: (padded name).toList = (c :: ' ' :: name.toList) ++ [' '] := by
    rw [toList_padded, List.cons_append, List.cons_append]
  have hcons : IsTrimmed (c :: ' ' :: name.toList) := by
    refine ⟨by simpa using hc, fun d hd => htrim.2 d ?_⟩
    have hnil : name.toList ≠ [] := fun h => hne (String.toList_eq_nil_iff.mp h)
    rwa [List.getLast?_cons_cons, List.getLast?_cons_of_ne_nil hnil] at hd
  refine ⟨' ' :: name.toList, ?_, ?_⟩
  · rw [hpad, trimChars_concat_of_isBlank (by decide), trimChars_eq_self_iff.mpr hcons]
  · rw [trimChars_cons_of_isBlank (by decide), trimChars_eq_self_iff.mpr htrim, String.ofList_toList]

theorem ofInner_opening (isInverted : Bool) (h : IsTagName name) :
    Tag.ofInner ((if isInverted then '^' else '#') :: (padded name).toList) =
      .opening isInverted name := by
  cases isInverted
  · obtain ⟨cs, htrim, hname⟩ := trimChars_sigil_padded (c := '#') (by decide) h
    simp [Tag.ofInner, htrim, hname]
  · obtain ⟨cs, htrim, hname⟩ := trimChars_sigil_padded (c := '^') (by decide) h
    simp [Tag.ofInner, htrim, hname]

theorem ofInner_closing (h : IsTagName name) :
    Tag.ofInner ('/' :: (padded name).toList) = .closing name := by
  obtain ⟨cs, htrim, hname⟩ := trimChars_sigil_padded (c := '/') (by decide) h
  simp [Tag.ofInner, htrim, hname]

/-! ### Reading what was written -/

theorem toList_valueTag_append (t : String) (cs : List Char) :
    (valueTag t).toList ++ cs = tagOpen ++ (t.toList ++ (tagClose ++ cs)) := by
  simp [valueTag, tagOpen, tagClose]

theorem toList_rawTag_append (t : String) (cs : List Char) :
    (rawTag t).toList ++ cs = tagOpen ++ '{' :: (t.toList ++ (tripleClose ++ cs)) := by
  simp [rawTag, tagOpen, tripleClose]

theorem getLast?_padded (name : String) : (padded name).toList.getLast? ≠ some '}' := by
  rw [toList_padded, List.getLast?_cons_of_ne_nil (by simp), List.getLast?_concat]
  decide

theorem not_infix_padded {k : Nat} (h : ¬ List.replicate (k + 1) '}' <:+: name.toList) :
    ¬ List.replicate (k + 1) '}' <:+: (padded name).toList := by
  rw [toList_padded, List.infix_cons_iff, List.infix_concat_iff]
  rintro (hp | hp | hp)
  · simp [List.replicate_succ] at hp
  · obtain ⟨u, hu⟩ := hp
    have hlast := congrArg List.getLast? hu
    simp [List.replicate_succ'] at hlast
  · exact h hp

theorem literal_toList (hs : s ≠ "") : literal s.toList = [.text s] := by
  simp [literal, hs]

/-- A text in front of a tag is read as it is. -/
theorem Reads.literal_append (hs : IsLiteral s) (hlast : s.toList.getLast? ≠ some '{')
    (h : Reads limit stop depth (tagOpen ++ cs) ts rest) :
    Reads limit stop depth (s.toList ++ (tagOpen ++ cs)) (.text s :: ts) rest := by
  have hcut : cutAt tagOpen (s.toList ++ (tagOpen ++ cs)) = some (s.toList, cs) :=
    cutAt_tagOpen_eq_some_iff.mpr ⟨rfl, hs.2, hlast⟩
  have hself := cutAt_self_append tagOpen cs
  have hlit := literal_toList hs.1
  cases h with
  | finish hcut' => simp [hself] at hcut'
  | close hcut' htag =>
      obtain ⟨rfl, rfl⟩ := Prod.mk.inj (Option.some.inj (hself.symm.trans hcut'))
      exact hlit ▸ .close hcut htag
  | leaf hcut' htag hmore =>
      obtain ⟨rfl, rfl⟩ := Prod.mk.inj (Option.some.inj (hself.symm.trans hcut'))
      have := Reads.leaf hcut htag hmore
      rwa [hlit] at this
  | opening hcut' htag hname hdepth hchildren hmore =>
      obtain ⟨rfl, rfl⟩ := Prod.mk.inj (Option.some.inj (hself.symm.trans hcut'))
      have := Reads.opening hcut htag hname hdepth hchildren hmore
      rwa [hlit] at this

theorem Reads.leaf_append (htag : readTag cs = .ok (.leaf tokens, rest))
    (h : Reads limit stop depth rest more left) :
    Reads limit stop depth (tagOpen ++ cs) (tokens ++ more) left :=
  .leaf (cutAt_self_append tagOpen cs) htag h

/-- A blank tag leaves no token. -/
theorem Reads.blank_append (h : Reads limit stop depth cs ts rest) :
    Reads limit stop depth ((valueTag " ").toList ++ cs) ts rest := by
  have htag : readTag ([' '] ++ (tagClose ++ cs)) = .ok (.ofInner [' '], cs) :=
    readTag_double (by simp) (by decide) (by simp)
  rw [toList_valueTag_append]
  exact Reads.leaf_append htag h

/-- A section is read when its children are, up to the closing tag. -/
theorem Reads.section_append (isInverted : Bool) {children : List Token} {body : String}
    (hname : IsTagName name) (hdepth : (depth : Int) + 1 ≤ limit)
    (hchildren : Reads limit (some name) (depth + 1)
      (body.toList ++ ((valueTag ("/" ++ padded name)).toList ++ cs)) children cs)
    (h : Reads limit stop depth cs more left) :
    Reads limit stop depth
      ((valueTag ((if isInverted then "^" else "#") ++ padded name)).toList ++
        (body.toList ++ ((valueTag ("/" ++ padded name)).toList ++ cs)))
      (section? isInverted name children :: more) left := by
  have hinner : ((if isInverted then "^" else "#") ++ padded name).toList =
      (if isInverted then '^' else '#') :: (padded name).toList := by
    cases isInverted <;> simp
  rw [toList_valueTag_append (_ ++ padded name), hinner]
  refine .opening (cutAt_self_append tagOpen _) ?_ hname.1 hdepth hchildren h
  rw [← ofInner_opening isInverted hname]
  refine readTag_double ?_ ?_ ?_
  · cases isInverted <;> simp
  · have := not_infix_padded (k := 1) hname.2.2
    rw [List.infix_cons_iff, not_or]
    exact ⟨by cases isInverted <;> simp [tagClose], this⟩
  · rw [List.getLast?_cons_of_ne_nil (by simp [padded])]
    exact getLast?_padded name

theorem Reads.closing_tag (hname : IsTagName name) :
    Reads limit (some name) depth ((valueTag ("/" ++ padded name)).toList ++ cs) [] cs := by
  have hinner : ("/" ++ padded name).toList = '/' :: (padded name).toList := by simp
  rw [toList_valueTag_append, hinner]
  refine .close (cutAt_self_append tagOpen _) ?_
  rw [← ofInner_closing hname]
  refine readTag_double (by simp) ?_ ?_
  · have := not_infix_padded (k := 1) hname.2.2
    rw [List.infix_cons_iff, not_or]
    exact ⟨by simp [tagClose], this⟩
  · rw [List.getLast?_cons_of_ne_nil (by simp [padded])]
    exact getLast?_padded name

/-- What separates two tokens leaves no token. -/
theorem Reads.gap_append (token : Token) (tokens : List Token)
    (h : Reads limit stop depth cs ts rest) :
    Reads limit stop depth ((gap token tokens).toList ++ cs) ts rest := by
  unfold gap
  split
  · exact h.blank_append
  · exact h

/-- After a text and what separates it from the next token a tag begins. -/
theorem tag_after_text (s : String) {tokens : List Token} (hne : tokens ≠ [])
    (hw : AllWritten isTop tokens) (cs : List Char) :
    ∃ w, (gap (.text s) tokens).toList ++ ((textOf tokens).toList ++ cs) = tagOpen ++ w := by
  cases tokens with
  | nil => exact absurd rfl hne
  | cons token tokens =>
      rw [AllWritten] at hw
      rw [textOf, String.toList_append, String.toList_append, List.append_assoc, List.append_assoc]
      cases token with
      | text t =>
          rw [gap]
          exact ⟨_, toList_valueTag_append _ _⟩
      | escaped name =>
          simp only [gap, Token.textOf, String.toList_empty, List.nil_append]
          exact ⟨_, toList_valueTag_append _ _⟩
      | raw name =>
          simp only [gap, Token.textOf, String.toList_empty, List.nil_append]
          exact ⟨_, toList_rawTag_append _ _⟩
      | block name children =>
          simp only [gap, Token.textOf, sectionText, String.toList_append, String.toList_empty,
            List.nil_append, List.append_assoc (valueTag _).toList]
          exact ⟨_, toList_valueTag_append _ _⟩
      | inverted name children =>
          simp only [gap, Token.textOf, invertedText, String.toList_append, String.toList_empty,
            List.nil_append, List.append_assoc (valueTag _).toList]
          exact ⟨_, toList_valueTag_append _ _⟩
      | comment =>
          simp only [gap, Token.textOf, String.toList_empty, List.nil_append]
          exact ⟨_, toList_valueTag_append _ _⟩
      | foreign v => exact absurd hw.1 (by simp [Token.IsWritten])

mutual

/-- A token that is no text is read from its text. -/
theorem Token.reads_textOf {limit : Int} : ∀ (token : Token) {stop : Option String} {depth : Nat}
    {cs left : List Char} {more : List Token}, token.IsWritten → (∀ s, token ≠ .text s) →
    (depth : Int) + token.nesting ≤ limit → Reads limit stop depth cs more left →
    Reads limit stop depth (token.textOf.toList ++ cs) (token :: more) left
  | .text s, _, _, _, _, _, _, htext, _, _ => absurd rfl (htext s)
  | .escaped name, _, _, cs, _, _, hw, _, _, h => by
      rw [Token.IsWritten] at hw
      rw [Token.textOf, toList_valueTag_append]
      have htag : readTag ((padded name).toList ++ (tagClose ++ cs)) =
          .ok (.leaf [.escaped name], cs) := by
        rw [← ofInner_padded hw]
        exact readTag_double (by simp [toList_padded]) (not_infix_padded (k := 1) hw.1.2.2)
          (getLast?_padded name)
      exact Reads.leaf_append htag h
  | .raw name, _, _, cs, _, _, hw, _, _, h => by
      rw [Token.IsWritten] at hw
      rw [Token.textOf, toList_rawTag_append]
      have htag : readTag ('{' :: ((padded name).toList ++ (tripleClose ++ cs))) =
          .ok (.leaf [.raw name], cs) := by
        rw [readTag_triple (not_infix_padded (k := 2) hw.2) (getLast?_padded name), toList_padded,
          trimChars_padded hw.1, String.ofList_toList]
      exact Reads.leaf_append htag h
  | .block name children, _, depth, cs, _, _, hw, _, hn, h => by
      rw [Token.IsWritten] at hw
      rw [Token.nesting] at hn
      rw [Token.textOf, sectionText, String.toList_append, String.toList_append, List.append_assoc,
        List.append_assoc]
      have hclose : Reads limit (some name) (depth + 1)
          ((valueTag ("/" ++ padded name)).toList ++ cs) [] cs := Reads.closing_tag hw.1
      have hchildren := reads_textOf children hw.2 (by omega)
        (.inr ⟨rfl, _, (toList_valueTag_append _ _).symm⟩) hclose
      rw [List.append_nil] at hchildren
      exact Reads.section_append false hw.1 (by omega) hchildren h
  | .inverted name children, _, depth, cs, _, _, hw, _, hn, h => by
      rw [Token.IsWritten] at hw
      rw [Token.nesting] at hn
      rw [Token.textOf, invertedText, String.toList_append, String.toList_append, List.append_assoc,
        List.append_assoc]
      have hclose : Reads limit (some name) (depth + 1)
          ((valueTag ("/" ++ padded name)).toList ++ cs) [] cs := Reads.closing_tag hw.1
      have hchildren := reads_textOf children hw.2 (by omega)
        (.inr ⟨rfl, _, (toList_valueTag_append _ _).symm⟩) hclose
      rw [List.append_nil] at hchildren
      exact Reads.section_append true hw.1 (by omega) hchildren h
  | .comment, _, _, cs, _, _, _, _, _, h => by
      rw [Token.textOf, toList_valueTag_append]
      have htag : readTag (['!'] ++ (tagClose ++ cs)) = .ok (.leaf [.comment], cs) :=
        readTag_double (by simp) (by decide) (by simp)
      exact Reads.leaf_append htag h
  | .foreign v, _, _, _, _, _, hw, _, _, _ => absurd hw (by simp [Token.IsWritten])

/-- Tokens are read from their text, up to the end of the template or up to the next tag. -/
theorem reads_textOf {limit : Int} : ∀ (ts : List Token) {isTop : Bool} {stop : Option String}
    {depth : Nat} {cs left : List Char} {more : List Token}, AllWritten isTop ts →
    (depth : Int) + nesting ts ≤ limit → cs = [] ∨ isTop = false ∧ tagOpen <+: cs →
    Reads limit stop depth cs more left →
    Reads limit stop depth ((textOf ts).toList ++ cs) (ts ++ more) left
  | [], _, _, _, _, _, _, _, _, _, h => h
  | token :: tokens, isTop, stop, depth, cs, left, more, hw, hn, hcs, h => by
      rw [AllWritten] at hw
      obtain ⟨htoken, hbrace, htokens⟩ := hw
      rw [nesting] at hn
      have htail := (reads_textOf tokens htokens (by omega) hcs h).gap_append token tokens
      rw [textOf, String.toList_append, String.toList_append, List.append_assoc, List.append_assoc]
      by_cases htext : ∃ s, token = .text s
      · obtain ⟨s, rfl⟩ := htext
        rw [Token.IsWritten] at htoken
        rw [Token.textOf]
        by_cases hne : tokens = []
        · subst hne
          rcases hcs with rfl | ⟨rfl, w, rfl⟩
          · -- At the end of the template the text is all that is left.
            cases h with
            | finish =>
                have hlast : Reads limit none depth s.toList (literal s.toList) [] :=
                  .finish (cutAt_eq_none_iff.mpr htoken.2)
                rw [literal_toList htoken.1] at hlast
                simpa [gap, textOf, literal] using hlast
            | close hcut => simp [cutAt, tagOpen] at hcut
            | leaf hcut => simp [cutAt, tagOpen] at hcut
            | opening hcut => simp [cutAt, tagOpen] at hcut
          · exact Reads.literal_append htoken (fun hlast => by simpa using (hbrace hlast).1) htail
        · obtain ⟨w, hw⟩ := tag_after_text s hne htokens cs
          rw [hw] at htail ⊢
          exact Reads.literal_append htoken (fun hlast => hne (hbrace hlast).2) htail
      · exact Token.reads_textOf token htoken (fun s hs => htext ⟨s, hs⟩) (by omega) htail

end

/-! ### What is read is a normal form -/

/-- What stands in a tag after a sigil has no closing braces either. -/
theorem not_infix_after_sigil {c : Char} (hclose : ¬ tagClose <:+: w) (htrim : trimChars w = c :: cs) :
    ¬ tagClose <:+: trimChars cs := by
  intro h
  have hcs : cs <:+: trimChars w := htrim ▸ (List.suffix_cons c cs).isInfix
  exact hclose (h.trans ((trimChars_isInfix cs).trans (hcs.trans (trimChars_isInfix w))))

theorem isRawName_trimChars {pat : List Char} (hpat : pat <+: tripleClose) (h : ¬ pat <:+: trimChars w) :
    IsRawName (String.ofList (trimChars w)) := by
  rw [IsRawName, String.toList_ofList]
  exact ⟨isTrimmed_trimChars w, fun hinf => h (hpat.isInfix.trans hinf)⟩

/-- What the text in a tag can ask for. -/
theorem ofInner_cases (w : List Char) :
    Tag.ofInner w = .leaf [] ∨ ∃ c cs, trimChars w = c :: cs ∧
      (Tag.ofInner w = .leaf [.comment] ∨ Tag.ofInner w = .partialTag ∧ c = '>' ∨
        Tag.ofInner w = .closing (String.ofList (trimChars cs)) ∨
        (∃ isInverted, Tag.ofInner w = .opening isInverted (String.ofList (trimChars cs))) ∨
        Tag.ofInner w = .leaf [.raw (String.ofList (trimChars cs))] ∨
        c ∉ sigils ∧ Tag.ofInner w = .leaf [.escaped (String.ofList (trimChars w))]) := by
  unfold Tag.ofInner
  cases htrim : trimChars w with
  | nil => exact .inl rfl
  | cons c cs =>
      refine .inr ⟨c, cs, rfl, ?_⟩
      dsimp only
      split
      · exact .inl rfl
      split
      · rename_i hsigil
        exact .inr (.inl ⟨rfl, beq_iff_eq.mp hsigil⟩)
      split
      · exact .inr (.inr (.inl rfl))
      split
      · exact .inr (.inr (.inr (.inl ⟨false, rfl⟩)))
      split
      · exact .inr (.inr (.inr (.inl ⟨true, rfl⟩)))
      split
      · exact .inr (.inr (.inr (.inr (.inl rfl))))
      · exact .inr (.inr (.inr (.inr (.inr ⟨by simp_all [sigils], rfl⟩))))

theorem written_singleton {token : Token} (hw : token.IsWritten) (hbrace : ¬ token.EndsInBrace)
    (hn : token.nesting = 0) : AllWritten false [token] ∧ nesting [token] = 0 := by
  simp [AllWritten, nesting, hw, hbrace, hn]

theorem written_of_ofInner (hclose : ¬ tagClose <:+: w) (h : Tag.ofInner w = .leaf tokens) :
    AllWritten false tokens ∧ nesting tokens = 0 := by
  rcases ofInner_cases w with
      hw | ⟨c, cs, htrim, hw | ⟨hw, -⟩ | hw | ⟨_, hw⟩ | hw | ⟨hc, hw⟩⟩ <;>
    rw [hw] at h <;> cases h
  · simp [AllWritten, nesting]
  · exact written_singleton (by simp [Token.IsWritten]) (by simp [Token.EndsInBrace]) rfl
  · have hraw := isRawName_trimChars (List.prefix_append tagClose ['}'])
      (not_infix_after_sigil hclose htrim)
    exact written_singleton (by rwa [Token.IsWritten]) (by simp [Token.EndsInBrace]) rfl
  · have hname : IsVariableName (String.ofList (trimChars w)) := by
      rw [IsVariableName, IsTagName, String.toList_ofList]
      refine ⟨⟨by simp [htrim], isTrimmed_trimChars w,
        fun hinf => hclose (hinf.trans (trimChars_isInfix w))⟩, ?_⟩
      rw [htrim]
      simpa using hc
    exact written_singleton (by rwa [Token.IsWritten]) (by simp [Token.EndsInBrace]) rfl

/-- Tags stand for normal tokens. -/
theorem written_of_readTag (htag : readTag cs = .ok (.leaf tokens, rest)) :
    AllWritten false tokens ∧ nesting tokens = 0 := by
  rcases readTag_eq_ok htag with ⟨w, hclose, h⟩ | ⟨w, hclose, h⟩
  · cases h
    have hraw := isRawName_trimChars (List.prefix_refl tripleClose)
      fun hinf => hclose (hinf.trans (trimChars_isInfix w))
    exact written_singleton (by rwa [Token.IsWritten]) (by simp [Token.EndsInBrace]) rfl
  · exact written_of_ofInner hclose h.symm

/-- The name of a section is one that its tags can hold. -/
theorem isTagName_of_readTag {isInverted : Bool}
    (htag : readTag cs = .ok (.opening isInverted name, rest)) (hne : name ≠ "") :
    IsTagName name := by
  rcases readTag_eq_ok htag with ⟨w, -, h⟩ | ⟨w, hclose, h⟩
  · cases h
  · rcases ofInner_cases w with
        hw | ⟨c, cs, htrim, hw | ⟨hw, -⟩ | hw | ⟨_, hw⟩ | hw | ⟨hc, hw⟩⟩ <;>
      rw [hw] at h <;> cases h
    refine ⟨hne, ?_, ?_⟩
    · rw [String.toList_ofList]
      exact isTrimmed_trimChars cs
    · rw [String.toList_ofList]
      exact not_infix_after_sigil hclose htrim

theorem written_literal (hinf : ¬ tagOpen <:+: before) (hlast : isTop = true ∨ before.getLast? ≠ some '{') :
    AllWritten isTop (literal before) := by
  unfold literal
  split
  · rw [AllWritten]
    trivial
  · rename_i hne
    rw [List.isEmpty_iff] at hne
    refine ⟨⟨by simpa using hne, by simpa using hinf⟩, fun h => ?_, by rw [AllWritten]; trivial⟩
    rw [Token.EndsInBrace, String.toList_ofList] at h
    exact ⟨hlast.resolve_right (not_not_intro h), rfl⟩

theorem nesting_literal (before : List Char) : nesting (literal before) = 0 := by
  unfold literal
  split <;> rfl

/-- The parser reads tokens that templates can have, and no section deeper than the limit. -/
theorem Reads.normal (h : Reads limit stop depth cs ts rest) (hdepth : (depth : Int) ≤ limit) :
    AllWritten stop.isNone ts ∧ (depth : Int) + nesting ts ≤ limit := by
  induction h with
  | finish hcut =>
      rw [nesting_literal]
      exact ⟨written_literal (cutAt_eq_none_iff.mp hcut) (.inl rfl), by omega⟩
  | close hcut htag =>
      obtain ⟨-, hinf, hlast⟩ := cutAt_tagOpen_eq_some_iff.mp hcut
      rw [nesting_literal]
      exact ⟨written_literal hinf (.inr hlast), by omega⟩
  | leaf hcut htag hmore ih =>
      obtain ⟨-, hinf, hlast⟩ := cutAt_tagOpen_eq_some_iff.mp hcut
      obtain ⟨htokens, hflat⟩ := written_of_readTag htag
      obtain ⟨hw, hn⟩ := ih hdepth
      rw [nesting_append, nesting_append, nesting_literal, hflat]
      exact ⟨allWritten_append (written_literal hinf (.inr hlast)) (allWritten_append htokens hw),
        by omega⟩
  | @opening stop depth _ _ _ _ _ _ isInverted name children more hcut htag hname hlimit hchildren
      hmore ihc ihm =>
      obtain ⟨-, hinf, hlast⟩ := cutAt_tagOpen_eq_some_iff.mp hcut
      obtain ⟨hwc, hnc⟩ := ihc (by omega)
      obtain ⟨hw, hn⟩ := ihm hdepth
      have hsection : AllWritten stop.isNone (section? isInverted name children :: more) := by
        rw [AllWritten]
        cases isInverted
        · exact ⟨⟨isTagName_of_readTag htag hname, hwc⟩, by simp [section?, Token.EndsInBrace], hw⟩
        · exact ⟨⟨isTagName_of_readTag htag hname, hwc⟩, by simp [section?, Token.EndsInBrace], hw⟩
      have hnest : (section? isInverted name children).nesting = nesting children + 1 := by
        cases isInverted <;> rfl
      rw [nesting_append, nesting_literal, nesting, hnest]
      exact ⟨allWritten_append (written_literal hinf (.inr hlast)) hsection, by omega⟩

/-! ### The round trip -/

theorem parse_textOf_of_normal {d : Nat} (h : Normal d ts) : parse (textOf ts) d = .ok ts := by
  have hend : Reads d none 0 [] [] [] := .finish rfl
  have hread := reads_textOf ts h.1 (by have := h.2; omega) (.inl rfl) hend
  rw [List.append_nil, List.append_nil] at hread
  exact parse_eq_ok_iff.mpr hread

theorem normal_of_parse {d : Nat} {template : String} (h : parse template d = .ok ts) :
    Normal d ts := by
  obtain ⟨hw, hn⟩ := (parse_eq_ok_iff.mp h).normal (by omega)
  exact ⟨hw, by omega⟩

/-- The results of the parser are exactly the normal forms, each of which is read back from its
text; writing a result and parsing it again gives the same result. -/
theorem parse_textOf_normal (d : Nat) :
    (∀ ts, Normal d ts → parse (textOf ts) d = .ok ts) ∧
      (∀ template ts, parse template d = .ok ts → Normal d ts) ∧
      (∀ ts, (∃ template, parse template d = .ok ts) ↔ Normal d ts) ∧
      ∀ template ts, parse template d = .ok ts → parse (textOf ts) d = parse template d := by
  refine ⟨fun ts => parse_textOf_of_normal, fun template ts => normal_of_parse, fun ts => ?_, ?_⟩
  · constructor
    · rintro ⟨template, h⟩
      exact normal_of_parse h
    · intro h
      exact ⟨textOf ts, parse_textOf_of_normal h⟩
  · intro template ts h
    rw [h]
    exact parse_textOf_of_normal (normal_of_parse h)

/-- Texts side by side, braces next to tags, a sigil as the name of a section, and a last brace. -/
theorem parse_textOf_braces :
    Normal 1 [.text "a\x7d", .text "b", .block "#" [.text "\x7dc", .raw ""], .text "d\x7b"] ∧
      parse (textOf [.text "a\x7d", .text "b", .block "#" [.text "\x7dc", .raw ""], .text "d\x7b"]) 1 =
        .ok [.text "a\x7d", .text "b", .block "#" [.text "\x7dc", .raw ""], .text "d\x7b"] := by
  have h : Normal 1
      [.text "a\x7d", .text "b", .block "#" [.text "\x7dc", .raw ""], .text "d\x7b"] := by
    decide
  exact ⟨h, (parse_textOf_normal 1).1 _ h⟩

end TabNotes.Template
