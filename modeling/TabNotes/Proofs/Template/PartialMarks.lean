import TabNotes.Proofs.Template.RoundTrip
import TabNotes.Template.Review

/-! # Partials that a review finds

A review looks for partial tags in the text of a template, without regard to the other tags in it.
In a template that parses no tag is a partial, so what it finds there stands within the text of some
tag: in a comment or in a name (`hasPartialTag_eq_any`).  The review has no errors exactly for the
templates that parse and in which no tag hides such a mark (`errors_reviewText_eq_nil_iff`). -/

namespace TabNotes.Template

open TabNotes.Text

variable {limit : Int} {stop : Option String} {depth : Nat} {ts : List Token} {tag : Tag}
  {cs before after inner rest u v : List Char} {afterBrace : Bool}

/-! ### The texts of tags -/

/-- Cuts a tag after its two opening braces into its text and what follows the tag. -/
def cutTag : List Char → Option (List Char × List Char)
  | '{' :: cs => cutAt tripleClose cs
  | cs => cutAt tagClose cs

theorem length_le_of_cutTag (h : cutTag cs = some (inner, rest)) : rest.length ≤ cs.length := by
  unfold cutTag at h
  split at h
  · have := length_after_cutAt h
    simp only [List.length_cons]
    omega
  · have := length_after_cutAt h
    omega

/-- The texts of the tags of a template, from left to right: what stands between their braces. -/
def tagTexts (cs : List Char) : List (List Char) :=
  match _ : cutAt tagOpen cs with
  | none => []
  | some (_, after) =>
    match _ : cutTag after with
    | none => []
    | some (inner, rest) => inner :: tagTexts rest
termination_by cs.length
decreasing_by
  have hafter := length_after_cutAt ‹cutAt tagOpen cs = some (_, after)›
  have hrest := length_le_of_cutTag ‹cutTag after = some (inner, rest)›
  simp only [tagOpen, List.length_cons, List.length_nil] at hafter
  omega

theorem tagTexts_eq_nil (hcut : cutAt tagOpen cs = none) : tagTexts cs = [] := by
  rw [tagTexts]
  split
  · rfl
  · rename_i hsome
    rw [hcut] at hsome
    cases hsome

theorem tagTexts_eq_cons (hcut : cutAt tagOpen cs = some (before, after))
    (htag : cutTag after = some (inner, rest)) : tagTexts cs = inner :: tagTexts rest := by
  rw [tagTexts]
  split
  · rename_i hnone
    rw [hcut] at hnone
    cases hnone
  · rename_i hsome
    rw [hcut] at hsome
    cases hsome
    split
    · rename_i hnone
      rw [htag] at hnone
      cases hnone
    · rename_i hsome
      rw [htag] at hsome
      cases hsome
      rfl

/-! ### Where a review finds a partial -/

/-- Whether a second brace, optional white space and `>` come next. -/
def goesOnAsPartial : List Char → Bool
  | '{' :: rest => (dropBlanks rest).head? == some '>'
  | _ => false

theorem hasPartialTag_cons (afterBrace : Bool) (c : Char) (cs : List Char) :
    hasPartialTag afterBrace (c :: cs) =
      (!afterBrace && c == '{' && goesOnAsPartial cs || hasPartialTag (c == '{') cs) := rfl

theorem goesOnAsPartial_iff : goesOnAsPartial cs = true ↔
    ∃ blanks after, cs = '{' :: (blanks ++ '>' :: after) ∧ ∀ c ∈ blanks, isBlank c = true := by
  constructor
  · intro h
    unfold goesOnAsPartial at h
    split at h
    · rename_i rest
      obtain ⟨after, hafter⟩ := List.head?_eq_some_iff.mp (beq_iff_eq.mp h)
      refine ⟨rest.takeWhile isBlank, after, ?_, fun _ hc => List.mem_takeWhile_imp hc⟩
      rw [← hafter, dropBlanks, List.takeWhile_append_dropWhile]
    · cases h
  · rintro ⟨blanks, after, rfl, hblanks⟩
    rw [goesOnAsPartial, dropBlanks, List.dropWhile_append_of_pos hblanks,
      List.dropWhile_cons_of_neg (by decide)]
    rfl

/-- What is found in a text: two braces, optional white space and `>`, where no brace comes just
before. -/
theorem hasPartialTag_iff : hasPartialTag afterBrace cs = true ↔
    ∃ before blanks after, cs = before ++ '{' :: '{' :: (blanks ++ '>' :: after) ∧
      (∀ c ∈ blanks, isBlank c = true) ∧ before.getLast?.elim afterBrace (· == '{') = false := by
  induction cs generalizing afterBrace with
  | nil => simp [hasPartialTag]
  | cons c cs ih =>
      rw [hasPartialTag_cons, Bool.or_eq_true, ih]
      constructor
      · rintro (h | ⟨before, blanks, after, rfl, hblanks, hlast⟩)
        · simp only [Bool.and_eq_true, Bool.not_eq_true', beq_iff_eq] at h
          obtain ⟨⟨hbrace, rfl⟩, hnext⟩ := h
          obtain ⟨blanks, after, rfl, hblanks⟩ := goesOnAsPartial_iff.mp hnext
          exact ⟨[], blanks, after, rfl, hblanks, hbrace⟩
        · refine ⟨c :: before, blanks, after, rfl, hblanks, ?_⟩
          rw [List.getLast?_cons]
          cases hbefore : before.getLast? <;> simpa [hbefore] using hlast
      · rintro ⟨before, blanks, after, hcs, hblanks, hlast⟩
        cases before with
        | nil =>
            obtain ⟨rfl, rfl⟩ := List.cons.inj hcs
            have hnext := goesOnAsPartial_iff.mpr ⟨blanks, after, rfl, hblanks⟩
            exact .inl (by simpa [hnext] using hlast)
        | cons d before =>
            obtain ⟨rfl, rfl⟩ := List.cons.inj hcs
            refine .inr ⟨before, blanks, after, rfl, hblanks, ?_⟩
            rw [List.getLast?_cons] at hlast
            cases hbefore : before.getLast? <;> simpa [hbefore] using hlast

/-- A partial tag within the text of a tag: two braces that follow a character other than a brace,
optional white space and `>`. -/
def HidesPartial (text : List Char) : Prop :=
  ∃ before last blanks after, text = before ++ last :: '{' :: '{' :: (blanks ++ '>' :: after) ∧
    last ≠ '{' ∧ ∀ c ∈ blanks, isBlank c = true

theorem hidesPartial_iff {text : List Char} : HidesPartial text ↔ hasPartialTag true text = true := by
  rw [hasPartialTag_iff]
  constructor
  · rintro ⟨before, last, blanks, after, rfl, hlast, hblanks⟩
    exact ⟨before ++ [last], blanks, after, by simp, hblanks, by simp [hlast]⟩
  · rintro ⟨before, blanks, after, rfl, hblanks, hlast⟩
    cases before using List.reverseRecOn with
    | nil => cases hlast
    | append_singleton before last =>
        exact ⟨before, last, blanks, after, by simp, by simpa using hlast, hblanks⟩

instance (text : List Char) : Decidable (HidesPartial text) :=
  decidable_of_iff' _ hidesPartial_iff

/-! ### Marks and tags -/

theorem goesOnAsPartial_cons_of_ne {c : Char} (hc : c ≠ '{') (cs : List Char) :
    goesOnAsPartial (c :: cs) = false := by
  unfold goesOnAsPartial
  split
  · rename_i heq
    exact absurd (List.cons.inj heq).1 hc
  · rfl

theorem head?_dropBlanks_append (u v : List Char) :
    ((dropBlanks (u ++ '}' :: v)).head? == some '>') = ((dropBlanks u).head? == some '>') := by
  induction u with
  | nil => rfl
  | cons c u ih =>
      cases hc : isBlank c with
      | true =>
          rw [dropBlanks, dropBlanks, List.cons_append, List.dropWhile_cons_of_pos hc,
            List.dropWhile_cons_of_pos hc]
          exact ih
      | false =>
          rw [dropBlanks, dropBlanks, List.cons_append, List.dropWhile_cons_of_neg (by simp [hc]),
            List.dropWhile_cons_of_neg (by simp [hc])]
          rfl

theorem goesOnAsPartial_append (u v : List Char) :
    goesOnAsPartial (u ++ '}' :: v) = goesOnAsPartial u := by
  cases u with
  | nil => rfl
  | cons c u =>
      by_cases hc : c = '{'
      · subst hc
        exact head?_dropBlanks_append u v
      · rw [List.cons_append, goesOnAsPartial_cons_of_ne hc, goesOnAsPartial_cons_of_ne hc]

/-- No mark reaches over a closing brace. -/
theorem hasPartialTag_append (afterBrace : Bool) (u v : List Char) :
    hasPartialTag afterBrace (u ++ '}' :: v) =
      (hasPartialTag afterBrace u || hasPartialTag false v) := by
  induction u generalizing afterBrace with
  | nil => simp [hasPartialTag]
  | cons c u ih =>
      rw [List.cons_append, hasPartialTag_cons, hasPartialTag_cons, ih, goesOnAsPartial_append,
        Bool.or_assoc]

/-- No mark begins before the first tag. -/
theorem hasPartialTag_before (hinf : ¬ tagOpen <:+: before) (hlast : before.getLast? ≠ some '{')
    (hbrace : before = [] → afterBrace = false) :
    hasPartialTag afterBrace (before ++ '{' :: v) = hasPartialTag false ('{' :: v) := by
  induction before generalizing afterBrace with
  | nil => rw [hbrace rfl, List.nil_append]
  | cons c before ih =>
      have hhere : (c == '{' && goesOnAsPartial (before ++ '{' :: v)) = false := by
        by_cases hc : c = '{'
        · subst hc
          cases before with
          | nil => exact absurd rfl hlast
          | cons d before =>
              have hd : d ≠ '{' := by
                rintro rfl
                exact hinf (List.prefix_append ['{', '{'] before).isInfix
              rw [List.cons_append, goesOnAsPartial_cons_of_ne hd, Bool.and_false]
        · rw [beq_false_of_ne hc, Bool.false_and]
      have hlast' : before.getLast? ≠ some '{' := fun h => hlast (by rw [List.getLast?_cons, h]; rfl)
      have hbrace' : before = [] → (c == '{') = false := by
        rintro rfl
        simpa using hlast
      rw [List.cons_append, hasPartialTag_cons, Bool.and_assoc, hhere, Bool.and_false, Bool.false_or]
      exact ih (fun h => hinf (h.trans (List.suffix_cons c before).isInfix)) hlast' hbrace'

/-- A tag that is read, other than a partial: what is found from its braces on is found in its text
or after the tag. -/
theorem hasPartialTag_tag (htag : readTag cs = .ok (tag, rest)) (hpartial : tag ≠ .partialTag) :
    ∃ inner, cutTag cs = some (inner, rest) ∧
      hasPartialTag false ('{' :: '{' :: cs) = (hasPartialTag true inner || hasPartialTag false rest) := by
  have hopening : hasPartialTag false ('{' :: '{' :: cs) =
      ((dropBlanks cs).head? == some '>' || hasPartialTag true cs) := rfl
  have hclosing : ∀ cs, hasPartialTag false ('}' :: cs) = hasPartialTag false cs := fun cs =>
    hasPartialTag_append false [] cs
  unfold readTag at htag
  split at htag
  · split at htag
    · rename_i cs _ inner rest hcut
      cases htag
      refine ⟨inner, hcut, ?_⟩
      have hcs : cs = inner ++ '}' :: '}' :: '}' :: rest := by
        rw [cutAt_eq_some hcut, List.append_assoc]
        rfl
      rw [hopening, hcs]
      change (false || hasPartialTag true (inner ++ _)) = _
      rw [Bool.false_or, hasPartialTag_append, hclosing, hclosing]
    · cases htag
  · split at htag
    · rename_i hbrace _ inner rest hcut
      cases htag
      have hcutTag : cutTag cs = some (inner, rest) := by
        unfold cutTag
        split
        · exact absurd rfl (hbrace _)
        · exact hcut
      refine ⟨inner, hcutTag, ?_⟩
      have hcs : cs = inner ++ '}' :: '}' :: rest := by
        rw [cutAt_eq_some hcut, List.append_assoc]
        rfl
      have hhead : ((dropBlanks inner).head? == some '>') = false := by
        refine beq_false_of_ne fun hhead => hpartial ?_
        obtain ⟨more, hmore⟩ := List.head?_eq_some_iff.mp hhead
        have htrim : trimChars inner = '>' :: dropTrailingBlanks more := by
          rw [trimChars, hmore]
          exact dropTrailingBlanks_append_cons (by decide) [] more
        rw [Tag.ofInner, htrim]
        rfl
      rw [hopening, hcs, head?_dropBlanks_append, hhead, Bool.false_or, hasPartialTag_append,
        hclosing]
    · cases htag

/-- What is found in a text up to the end of a tag that is no partial, and after it. -/
theorem hasPartialTag_of_cut (hcut : cutAt tagOpen cs = some (before, after))
    (htag : readTag after = .ok (tag, rest)) (hpartial : tag ≠ .partialTag) :
    ∃ inner, tagTexts cs = inner :: tagTexts rest ∧
      hasPartialTag false cs = (hasPartialTag true inner || hasPartialTag false rest) := by
  obtain ⟨inner, hinner, hfound⟩ := hasPartialTag_tag htag hpartial
  obtain ⟨hcs, hinf, hlast⟩ := cutAt_tagOpen_eq_some_iff.mp hcut
  refine ⟨inner, tagTexts_eq_cons hcut hinner, ?_⟩
  rw [← hfound, hcs]
  exact hasPartialTag_before hinf hlast fun _ => rfl

/-- In what the parser reads, marks stand in the texts of tags only. -/
theorem Reads.hasPartialTag_eq (h : Reads limit stop depth cs ts rest) :
    ∃ texts, tagTexts cs = texts ++ tagTexts rest ∧
      hasPartialTag false cs = (texts.any (hasPartialTag true) || hasPartialTag false rest) := by
  induction h with
  | finish hcut =>
      refine ⟨[], by rw [tagTexts_eq_nil hcut, tagTexts_eq_nil rfl]; rfl, ?_⟩
      refine Bool.eq_false_iff.mpr fun hfound => ?_
      obtain ⟨before, blanks, after, rfl, -⟩ := hasPartialTag_iff.mp hfound
      exact cutAt_eq_none_iff.mp hcut ⟨before, blanks ++ '>' :: after, by simp [tagOpen]⟩
  | close hcut htag =>
      obtain ⟨inner, htexts, hfound⟩ := hasPartialTag_of_cut hcut htag (by simp)
      exact ⟨[inner], htexts, by simp [hfound]⟩
  | leaf hcut htag _ ih =>
      obtain ⟨inner, htexts, hfound⟩ := hasPartialTag_of_cut hcut htag (by simp)
      obtain ⟨more, hmore, hrest⟩ := ih
      exact ⟨inner :: more, by rw [htexts, hmore]; rfl, by simp [hfound, hrest, Bool.or_assoc]⟩
  | opening hcut htag _ _ _ _ ihc ihm =>
      obtain ⟨inner, htexts, hfound⟩ := hasPartialTag_of_cut hcut htag (by simp)
      obtain ⟨children, hchildren, hinside⟩ := ihc
      obtain ⟨more, hmore, hrest⟩ := ihm
      exact ⟨inner :: (children ++ more), by rw [htexts, hchildren, hmore]; simp,
        by simp [hfound, hinside, hrest, Bool.or_assoc]⟩

/-! ### Reviews -/

/-- In a template that parses, what is found stands within the text of a tag. -/
theorem hasPartialTag_eq_any {template : String} (h : parse template limit = .ok ts) :
    hasPartialTag false template.toList =
      (tagTexts template.toList).any (hasPartialTag true) := by
  obtain ⟨texts, htexts, hfound⟩ := (parse_eq_ok_iff.mp h).hasPartialTag_eq
  rw [htexts, hfound, tagTexts_eq_nil rfl, List.append_nil]
  exact Bool.or_false _

/-- The first error is the fault of the parser. -/
theorem head?_errors_of_parse_error {template : String} {fault : SyntaxFault}
    (h : parse template defaultDepth = .error fault) :
    (reviewText template).errors.head? = some fault := by
  rw [reviewText, h]
  dsimp only
  split
  · dsimp only
    split <;> rfl
  · rfl

/-- Without a fault of the parser the only error can be a partial within the text of a tag. -/
theorem errors_of_parse_ok {template : String} (h : parse template defaultDepth = .ok ts) :
    (reviewText template).errors =
      if ∃ text ∈ tagTexts template.toList, HidesPartial text then [.partialTag] else [] := by
  have hfound : hasPartialTag false template.toList = true ↔
      ∃ text ∈ tagTexts template.toList, HidesPartial text := by
    simp only [hasPartialTag_eq_any h, List.any_eq_true, hidesPartial_iff]
  rw [reviewText, h]
  by_cases hhidden : ∃ text ∈ tagTexts template.toList, HidesPartial text
  · rw [if_pos hhidden, if_pos (hfound.mpr hhidden)]
    rfl
  · rw [if_neg hhidden, if_neg fun htrue => hhidden (hfound.mp htrue)]

theorem errors_reviewText_eq_nil_iff {template : String} :
    (reviewText template).errors = [] ↔ (∃ ts, parse template defaultDepth = .ok ts) ∧
      ∀ text ∈ tagTexts template.toList, ¬ HidesPartial text := by
  cases hparse : parse template defaultDepth with
  | error fault =>
      have hhead := head?_errors_of_parse_error hparse
      constructor
      · intro h
        rw [h] at hhead
        cases hhead
      · rintro ⟨⟨ts, ⟨⟩⟩, -⟩
  | ok ts =>
      rw [errors_of_parse_ok hparse]
      simp

end TabNotes.Template
