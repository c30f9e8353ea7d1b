import TabNotes.Proofs.Template.FrontmatterTags
import TabNotes.Proofs.Template.RoundTrip
import TabNotes.Proofs.Template.Subtokens

/-! # Raw tags that a review finds

Every raw token of a parsed template is read from a tag in its text (`Reads.hasTag_of_raw`).  A
review that warns of no raw tag leaves three kinds of them (`raw_of_quiet_review`): tags for the
frontmatter block, tags whose name holds what looks like one (`HasBracedTag`), and tags with white
space before their ampersand (`HasSpacedTag`). -/

namespace TabNotes.Template

open TabNotes.Text

variable {limit : Int} {stop : Option String} {depth : Nat}
  {cs u w before after rest inner : List Char}
  {name : String} {ts tokens : List Token} {tag : Tag}

/-! ### Where raw tokens come from -/

/-- A tag that is read in a text, at the first of its opening braces. -/
def HasTag (tag : Tag) (cs : List Char) : Prop :=
  ∃ before after rest, cs = before ++ (tagOpen ++ after) ∧ before.getLast? ≠ some '{' ∧
    readTag after = .ok (tag, rest)

theorem HasTag.append (h : HasTag tag cs) (hu : u.getLast? ≠ some '{') : HasTag tag (u ++ cs) := by
  obtain ⟨before, after, rest, rfl, hlast, htag⟩ := h
  refine ⟨u ++ before, after, rest, (List.append_assoc u before _).symm, fun hbrace => ?_, htag⟩
  rw [List.getLast?_append, Option.or_eq_some_iff] at hbrace
  exact hbrace.elim hlast fun h => hu h.2

/-- The text after a tag follows a brace. -/
theorem exists_brace_of_readTag (h : readTag cs = .ok (tag, rest)) : ∃ u, cs = u ++ '}' :: rest := by
  unfold readTag at h
  split at h
  · split at h
    · rename_i hcut
      cases h
      exact ⟨'{' :: _ ++ ['}', '}'], by simp [cutAt_eq_some hcut, tripleClose]; rfl⟩
    · cases h
  · split at h
    · rename_i hcut
      cases h
      exact ⟨_ ++ ['}'], by simp [cutAt_eq_some hcut, tagClose]; rfl⟩
    · cases h

theorem exists_brace_of_cutAt (hcut : cutAt tagOpen cs = some (before, after))
    (htag : readTag after = .ok (tag, rest)) : ∃ u, cs = u ++ '}' :: rest := by
  obtain ⟨u, rfl⟩ := exists_brace_of_readTag htag
  exact ⟨before ++ tagOpen ++ u, by rw [cutAt_eq_some hcut, List.append_assoc (before ++ tagOpen)]⟩

/-- The text after a section follows a brace. -/
theorem Reads.exists_brace (h : Reads limit stop depth cs ts rest) (hstop : stop ≠ none) :
    ∃ u, cs = u ++ '}' :: rest := by
  induction h with
  | finish => exact absurd rfl hstop
  | close hcut htag => exact exists_brace_of_cutAt hcut htag
  | leaf hcut htag _ ih =>
      obtain ⟨u, rfl⟩ := exists_brace_of_cutAt hcut htag
      obtain ⟨v, rfl⟩ := ih hstop
      exact ⟨u ++ '}' :: v, by simp⟩
  | opening hcut htag _ _ _ _ ihc ihm =>
      obtain ⟨u, rfl⟩ := exists_brace_of_cutAt hcut htag
      obtain ⟨v, rfl⟩ := ihc (by simp)
      obtain ⟨w, rfl⟩ := ihm hstop
      exact ⟨u ++ '}' :: (v ++ '}' :: w), by simp⟩

theorem HasTag.of_rest (h : HasTag tag rest) (hcs : ∃ u, cs = u ++ '}' :: rest) : HasTag tag cs := by
  obtain ⟨u, rfl⟩ := hcs
  rw [List.append_cons]
  exact h.append (by simp)

theorem raw_not_mem_literal (cs : List Char) : .raw name ∉ allTokens (literal cs) := by
  unfold literal
  split <;> simp [allTokens, Token.subtokens]

theorem eq_of_raw_mem_of_readTag (htag : readTag cs = .ok (.leaf tokens, rest))
    (hmem : .raw name ∈ allTokens tokens) : tokens = [.raw name] := by
  rcases readTag_eq_ok htag with ⟨w, -, h⟩ | ⟨w, -, h⟩
  · cases h
    simpa [allTokens, Token.subtokens, eq_comm] using hmem
  · rcases ofInner_cases w with hw | ⟨c, cs, -, hw | ⟨hw, -⟩ | hw | ⟨_, hw⟩ | hw | ⟨-, hw⟩⟩ <;>
      rw [hw] at h <;> cases h <;> simp [allTokens, Token.subtokens] at hmem
    rw [hmem]

theorem mem_subtokens_section (isInverted : Bool) (children : List Token) {name' : String} :
    .raw name ∈ (section? isInverted name' children).subtokens ↔ .raw name ∈ allTokens children := by
  cases isInverted <;> simp [section?, Token.subtokens]

/-- Every raw token is read from a tag in the text. -/
theorem Reads.hasTag_of_raw (h : Reads limit stop depth cs ts rest)
    (hmem : .raw name ∈ allTokens ts) :
    HasTag (.leaf [.raw name]) cs := by
  induction h with
  | finish => exact absurd hmem (raw_not_mem_literal _)
  | close => exact absurd hmem (raw_not_mem_literal _)
  | leaf hcut htag _ ih =>
      rw [allTokens_append, allTokens_append, List.mem_append, List.mem_append] at hmem
      rcases hmem with hmem | hmem | hmem
      · exact absurd hmem (raw_not_mem_literal _)
      · obtain ⟨hcs, -, hlast⟩ := cutAt_tagOpen_eq_some_iff.mp hcut
        exact ⟨_, _, _, hcs, hlast, eq_of_raw_mem_of_readTag htag hmem ▸ htag⟩
      · exact (ih hmem).of_rest (exists_brace_of_cutAt hcut htag)
  | opening hcut htag _ _ hchildren _ ihc ihm =>
      have hrest := exists_brace_of_cutAt hcut htag
      rw [allTokens_append, allTokens, List.mem_append, List.mem_append,
        mem_subtokens_section] at hmem
      rcases hmem with hmem | hmem | hmem
      · exact absurd hmem (raw_not_mem_literal _)
      · exact (ihc hmem).of_rest hrest
      · exact ((ihm hmem).of_rest (hchildren.exists_brace (by simp))).of_rest hrest

/-! ### The tags that are left -/

/-- A triple tag whose name begins with a brace or an ampersand and goes on with the name of the
block. -/
def HasBracedTag (name : String) (cs : List Char) : Prop :=
  ∃ before after inner rest, cs = before ++ (tagOpen ++ '{' :: after) ∧
    before.getLast? ≠ some '{' ∧ cutAt tripleClose after = some (inner, rest) ∧
    name = String.ofList (trimChars inner) ∧
    (inner.head? = some '{' ∨ inner.head? = some '&') ∧ frontmatterName <:+: inner.tail

/-- A raw tag with white space between its braces and its ampersand. -/
def HasSpacedTag (name : String) (cs : List Char) : Prop :=
  ∃ before blanks after inner rest, cs = before ++ (tagOpen ++ (blanks ++ '&' :: after)) ∧
    before.getLast? ≠ some '{' ∧ cutAt tagClose after = some (inner, rest) ∧
    name = String.ofList (trimChars inner) ∧ blanks ≠ [] ∧ ∀ c ∈ blanks, isBlank c = true

theorem IsBlockName.trimChars_eq {b : List Char} (h : IsBlockName b) :
    trimChars b = frontmatterName := by
  obtain ⟨left, right, rfl, hleft, hright⟩ := h
  rw [trimChars_append_of_isBlank_left hleft, trimChars_append_of_isBlank_right hright]
  exact trimChars_eq_self_iff.mpr (by decide)

theorem IsBlockName.infix {b : List Char} (h : IsBlockName b) : frontmatterName <:+: b := by
  obtain ⟨left, right, rfl, -, -⟩ := h
  exact ⟨left, right, List.append_assoc left _ _⟩

theorem IsBlockName.not_mem {b : List Char} (h : IsBlockName b) : '}' ∉ b :=
  fun hmem => (h.ne_of_mem hmem).2.1 rfl

/-- A text without a character stands before the first place of it. -/
theorem prefix_of_not_mem {c : Char} {more : List Char} (h : u ++ more = inner ++ c :: rest)
    (hu : c ∉ u) : u <+: inner := by
  rcases List.append_eq_append_iff.mp h with ⟨v, rfl, -⟩ | ⟨v, rfl, hv⟩
  · exact List.prefix_append u v
  · cases v with
    | nil => rw [List.append_nil]
    | cons d v =>
        obtain rfl := (List.cons.inj hv).1
        exact absurd (by simp) hu

theorem exists_name_of_afterFrontmatterTag? (h : afterFrontmatterTag? cs = some rest) :
    ∃ first closing b, (first = '{' ∨ first = '&') ∧ IsBlockName b ∧
      cs = '{' :: '{' :: first :: (b ++ (closing ++ rest)) := by
  rcases beginsWithTag_of_afterFrontmatterTag? h with ⟨b, hb, hcs⟩ | ⟨b, hb, hcs⟩
  · exact ⟨'{', tripleClose, b, .inl rfl, hb, hcs⟩
  · exact ⟨'&', tagClose, b, .inr rfl, hb, hcs⟩

/-- A name of the block after a brace or an ampersand, in the text of a triple tag. -/
theorem name_in_triple {c : Char} {more b after : List Char} (hc : c = '{' ∨ c = '&')
    (hb : IsBlockName b) (hmore : '}' ∉ more)
    (h : c :: (more ++ b) ++ after = inner ++ (tripleClose ++ rest)) :
    (inner.head? = some '{' ∨ inner.head? = some '&') ∧ frontmatterName <:+: inner.tail := by
  have hmem : '}' ∉ c :: (more ++ b) := by
    rcases hc with rfl | rfl <;> simp [hmore, hb.not_mem]
  obtain ⟨v, rfl⟩ := prefix_of_not_mem h hmem
  refine ⟨by simpa using hc, hb.infix.trans ?_⟩
  exact (List.suffix_append more b).isInfix.trans (List.prefix_append _ v).isInfix

/-- A triple tag in a text without other raw tags. -/
theorem IsQuiet.triple (h : IsQuiet ('{' :: '{' :: '{' :: cs))
    (hcut : cutAt tripleClose cs = some (inner, rest)) :
    trimChars inner = frontmatterName ∨
      (inner.head? = some '{' ∨ inner.head? = some '&') ∧ frontmatterName <:+: inner.tail := by
  have hinner := cutAt_eq_some hcut
  rw [List.append_assoc] at hinner
  rcases exists_tag_of_not_prefix (fun hpre => h.1 hpre.isInfix) with ⟨after, htag⟩ | htag | htag
  · rcases beginsWithTag_of_afterFrontmatterTag? htag with ⟨b, hb, heq⟩ | ⟨b, hb, heq⟩
    · obtain rfl : cs = b ++ (tripleClose ++ after) := by simpa using heq
      have hcut' : cutAt tripleClose (b ++ (tripleClose ++ after)) = some (b, after) :=
        cutAt_cons_of_not_mem ['}', '}'] hb.not_mem
      obtain rfl : b = inner := by
        rw [hcut', Option.some.injEq, Prod.mk.injEq] at hcut
        exact hcut.1
      exact .inl hb.trimChars_eq
    · simp at heq
  · obtain ⟨after, htag⟩ := htag
    obtain ⟨first, closing, b, hfirst, hb, heq⟩ := exists_name_of_afterFrontmatterTag? htag
    have hcs : first :: ([] ++ b) ++ (closing ++ after) = inner ++ (tripleClose ++ rest) := by
      simpa [hinner] using heq.symm
    exact .inr (name_in_triple hfirst hb (by simp) hcs)
  · obtain ⟨after, htag⟩ := htag
    obtain ⟨first, closing, b, hfirst, hb, heq⟩ := exists_name_of_afterFrontmatterTag? htag
    have hcs : '{' :: ([first] ++ b) ++ (closing ++ after) = inner ++ (tripleClose ++ rest) := by
      simpa [hinner] using heq.symm
    exact .inr (name_in_triple (.inl rfl) hb (by rcases hfirst with rfl | rfl <;> decide) hcs)

/-- A tag with an ampersand in a text without other raw tags. -/
theorem IsQuiet.ampersand (h : IsQuiet ('{' :: '{' :: '&' :: cs))
    (hcut : cutAt tagClose ('&' :: cs) = some (inner, rest)) :
    ∃ b, inner = '&' :: b ∧ trimChars b = frontmatterName := by
  rcases exists_tag_of_not_prefix (fun hpre => h.2 hpre.isInfix) with
    ⟨after, htag⟩ | ⟨after, htag⟩ | ⟨after, htag⟩
  · rcases beginsWithTag_of_afterFrontmatterTag? htag with ⟨b, hb, heq⟩ | ⟨b, hb, heq⟩
    · simp at heq
    · obtain rfl : cs = b ++ (tagClose ++ after) := by simpa using heq
      have hmem : '}' ∉ '&' :: b := by simp [hb.not_mem]
      have hcut' : cutAt tagClose ('&' :: b ++ (tagClose ++ after)) = some ('&' :: b, after) :=
        cutAt_cons_of_not_mem ['}'] hmem
      rw [← List.cons_append, hcut', Option.some.injEq, Prod.mk.injEq] at hcut
      exact ⟨b, hcut.1.symm, hb.trimChars_eq⟩
  · obtain ⟨first, closing, b, -, -, heq⟩ := exists_name_of_afterFrontmatterTag? htag
    simp at heq
  · obtain ⟨first, closing, b, -, -, heq⟩ := exists_name_of_afterFrontmatterTag? htag
    simp at heq

/-- A tag between double braces that stands for a raw token: its ampersand may follow white
space. -/
theorem ofInner_eq_raw (h : Tag.ofInner w = .leaf [.raw name]) :
    ∃ blanks b, w = blanks ++ '&' :: b ∧ (∀ c ∈ blanks, isBlank c = true) ∧
      name = String.ofList (trimChars b) := by
  obtain ⟨blanks, hw, hblanks⟩ := dropBlanks_eq_append w
  cases hdrop : dropBlanks w with
  | nil => simp [Tag.ofInner, trimChars, hdrop, dropTrailingBlanks] at h
  | cons c b =>
      have hc : isBlank c = false := by
        have hhead := List.head?_dropWhile_not isBlank w
        rwa [← dropBlanks, hdrop] at hhead
      have htrim : trimChars w = c :: dropTrailingBlanks b := by
        rw [trimChars, hdrop]
        exact dropTrailingBlanks_append_cons hc [] b
      unfold Tag.ofInner at h
      rw [htrim] at h
      dsimp only at h
      split_ifs at h with _ _ _ _ _ hamp <;> cases h
      refine ⟨blanks, b, ?_, hblanks, by rw [trimChars_dropTrailingBlanks]⟩
      rw [hw, hdrop, beq_iff_eq.mp hamp]

theorem name_of_hasTag (hquiet : IsQuiet cs) (h : HasTag (.leaf [.raw name]) cs) :
    name = "frontmatter" ∨ HasBracedTag name cs ∨ HasSpacedTag name cs := by
  obtain ⟨before, after, rest, rfl, hlast, htag⟩ := h
  have hquiet' : IsQuiet ('{' :: '{' :: after) := hquiet.of_append hlast
  unfold readTag at htag
  split at htag
  · rename_i cs
    split at htag
    · rename_i inner rest hcut
      cases htag
      rcases hquiet'.triple hcut with hname | ⟨hhead, hname⟩
      · exact .inl (by rw [hname]; rfl)
      · exact .inr (.inl ⟨before, cs, inner, rest, rfl, hlast, hcut, rfl, hhead, hname⟩)
    · cases htag
  · split at htag
    · rename_i inner rest hcut
      obtain ⟨hraw, -⟩ := Prod.mk.inj (Except.ok.inj htag)
      obtain ⟨blanks, b, rfl, hblanks, rfl⟩ := ofInner_eq_raw hraw
      obtain ⟨rfl, -, -⟩ := cutAt_tagClose_eq_some_iff.mp hcut
      cases blanks with
      | nil =>
          obtain ⟨b', hb, hname⟩ := hquiet'.ampersand hcut
          obtain rfl : b = b' := (List.cons.inj hb).2
          exact .inl (by rw [hname]; rfl)
      | cons c blanks =>
          rw [List.append_cons, List.append_assoc] at hcut
          refine .inr (.inr ⟨before, c :: blanks, _, b, rest, ?_, hlast, cutAt_of_cutAt_append hcut,
            rfl, by simp, hblanks⟩)
          simp
    · cases htag

/-! ### Reviews without warnings -/

theorem mem_warnings_iff (template : String) :
    (.tripleTag ∈ (reviewText template).warnings ↔
      occursIn "\x7b\x7b\x7b" (String.ofList (others template.toList)) = true) ∧
    (.ampersandTag ∈ (reviewText template).warnings ↔
      occursIn "\x7b\x7b&" (String.ofList (others template.toList)) = true) := by
  unfold reviewText others
  dsimp only
  split <;> simp

/-- The review warns of no raw tag exactly when there is none but the tags for the block. -/
theorem isQuiet_iff (template : String) :
    IsQuiet template.toList ↔ .tripleTag ∉ (reviewText template).warnings ∧
      .ampersandTag ∉ (reviewText template).warnings := by
  obtain ⟨htriple, hampersand⟩ := mem_warnings_iff template
  have hoccurs : ∀ pat, occursIn pat (String.ofList (others template.toList)) = true ↔
      pat.toList <:+: others template.toList := fun pat => by
    rw [occursIn_iff, String.toList_ofList]
  rw [htriple, hampersand, hoccurs, hoccurs]
  rfl

theorem exists_parse_of_errors_eq_nil {template : String} (h : (reviewText template).errors = []) :
    ∃ ts, parse template defaultDepth = .ok ts := by
  unfold reviewText at h
  cases hparse : parse template defaultDepth with
  | ok ts => exact ⟨ts, rfl⟩
  | error fault =>
      rw [hparse] at h
      dsimp only at h
      split at h
      · split at h <;> cases h
      · cases h

/-- What a review that finds no fault and warns of no raw tag says about a template: it parses, and
every raw token in it, at any depth, is the frontmatter block, a triple tag whose name begins with a
brace or an ampersand and holds the name of the block, or a tag with white space before its
ampersand. -/
theorem raw_of_quiet_review {template : String} (herrors : (review (.text template)).errors = [])
    (htriple : .tripleTag ∉ (review (.text template)).warnings)
    (hampersand : .ampersandTag ∉ (review (.text template)).warnings) :
    ∃ ts, parse template defaultDepth = .ok ts ∧ ∀ name, .raw name ∈ allTokens ts →
      name = "frontmatter" ∨ HasBracedTag name template.toList ∨ HasSpacedTag name template.toList := by
  obtain ⟨ts, hparse⟩ := exists_parse_of_errors_eq_nil herrors
  refine ⟨ts, hparse, fun name hmem => ?_⟩
  exact name_of_hasTag ((isQuiet_iff template).mpr ⟨htriple, hampersand⟩)
    ((parse_eq_ok_iff.mp hparse).hasTag_of_raw hmem)

/-- A template of a tag with an ampersand and a triple tag, of which a review does not warn. -/
def hiddenTags : String := "\x7b\x7b & title \x7d\x7d\x7b\x7b\x7b\x7bfrontmatter\x7d\x7d\x7d"

theorem parse_hiddenTags :
    parse hiddenTags defaultDepth = .ok [.raw "title", .raw "\x7bfrontmatter"] := by
  rw [parse_eq_ok_iff]
  refine (?_ : Reads defaultDepth none 0 _ (literal [] ++ ([.raw "title"] ++
    (literal [] ++ ([.raw "\x7bfrontmatter"] ++ literal [])))) [])
  exact .leaf rfl rfl (.leaf rfl rfl (.finish rfl))

theorem raw_of_quiet_review_hiddenTags :
    (review (.text hiddenTags)).errors = [] ∧ (review (.text hiddenTags)).warnings = [] ∧
      parse hiddenTags defaultDepth = .ok [.raw "title", .raw "\x7bfrontmatter"] ∧
      ∀ name ∈ ["title", "\x7bfrontmatter"],
        HasBracedTag name hiddenTags.toList ∨ HasSpacedTag name hiddenTags.toList := by
  have herrors : (review (.text hiddenTags)).errors = [] := by
    rw [review, reviewText, parse_hiddenTags]
    rfl
  have hwarnings : (review (.text hiddenTags)).warnings = [] := by
    rw [review, reviewText, parse_hiddenTags]
    rfl
  refine ⟨herrors, hwarnings, parse_hiddenTags, fun name hname => ?_⟩
  obtain ⟨ts, hparse, hraw⟩ := raw_of_quiet_review herrors (by simp [hwarnings]) (by simp [hwarnings])
  rw [parse_hiddenTags] at hparse
  cases hparse
  have hmem : .raw name ∈ allTokens [.raw "title", .raw "\x7bfrontmatter"] := by
    simpa [allTokens, Token.subtokens] using hname
  refine (hraw name hmem).resolve_left ?_
  rintro rfl
  exact absurd hname (by decide)

end TabNotes.Template
