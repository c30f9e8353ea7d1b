import TabNotes.Proofs.Text.Blank
import TabNotes.Template.Review

/-! # Taking out the tags for the frontmatter block

A review looks at a template without the raw tags for the frontmatter block, `others`.  Taking them
out from the start of the text and taking them out from a tag on agree (`others_isSuffix`): no tag
that is taken out begins before braces and ends after them. -/

namespace TabNotes.Template

open TabNotes.Text

variable {cs rest u v w b : List Char}

/-! ### The tags for the block -/

/-- What stands in a raw tag for the block: its name with white space around it. -/
def IsBlockName (b : List Char) : Prop :=
  ∃ left right, b = left ++ (frontmatterName ++ right) ∧ (∀ c ∈ left, isBlank c = true) ∧
    ∀ c ∈ right, isBlank c = true

/-- A text that begins with a raw tag for the block, and what follows the tag. -/
def BeginsWithTag (first : Char) (closing cs rest : List Char) : Prop :=
  ∃ b, IsBlockName b ∧ cs = '{' :: '{' :: first :: (b ++ (closing ++ rest))

theorem dropBlanks_eq_append (cs : List Char) :
    ∃ blanks, cs = blanks ++ dropBlanks cs ∧ ∀ c ∈ blanks, isBlank c = true :=
  ⟨cs.takeWhile isBlank, (List.takeWhile_append_dropWhile).symm, fun _ hc =>
    List.mem_takeWhile_imp hc⟩

theorem beginsWithTag_of_afterTag? {first : Char} {closing : List Char}
    (h : afterTag? ['{', '{', first] frontmatterName closing cs = some rest) :
    BeginsWithTag first closing cs rest := by
  unfold afterTag? at h
  split at h
  · rename_i hopening
    obtain ⟨tail, rfl⟩ := List.isPrefixOf_iff_prefix.mp hopening
    obtain ⟨left, hleft, hleftBlank⟩ := dropBlanks_eq_append tail
    dsimp only at h
    rw [List.drop_left] at h
    split at h
    · rename_i hword
      obtain ⟨named, hnamed⟩ := List.isPrefixOf_iff_prefix.mp hword
      obtain ⟨right, hright, hrightBlank⟩ := dropBlanks_eq_append named
      rw [← hnamed, List.drop_left] at h
      split at h
      · rename_i hclosing
        obtain ⟨after, hafter⟩ := List.isPrefixOf_iff_prefix.mp hclosing
        rw [← hafter, List.drop_left] at h
        obtain rfl := Option.some.inj h
        refine ⟨left ++ (frontmatterName ++ right), ⟨left, right, rfl, hleftBlank, hrightBlank⟩, ?_⟩
        rw [hleft, ← hnamed, hright, ← hafter]
        simp
      · cases h
    · cases h
  · cases h

theorem beginsWithTag_of_afterFrontmatterTag? (h : afterFrontmatterTag? cs = some rest) :
    BeginsWithTag '{' tripleClose cs rest ∨ BeginsWithTag '&' tagClose cs rest := by
  unfold afterFrontmatterTag? at h
  split at h
  · rename_i htriple
    obtain rfl := Option.some.inj h
    exact .inl (beginsWithTag_of_afterTag? htriple)
  · exact .inr (beginsWithTag_of_afterTag? h)

/-- No character of a name in a tag is a brace or an ampersand. -/
theorem IsBlockName.ne_of_mem (h : IsBlockName b) {c : Char} (hc : c ∈ b) :
    c ≠ '{' ∧ c ≠ '}' ∧ c ≠ '&' := by
  obtain ⟨left, right, rfl, hleft, hright⟩ := h
  have hblank : isBlank c = true → c ≠ '{' ∧ c ≠ '}' ∧ c ≠ '&' := by
    intro hc
    refine ⟨?_, ?_, ?_⟩ <;> rintro rfl <;> exact absurd hc (by decide)
  rcases List.mem_append.mp hc with hc | hc
  · exact hblank (hleft c hc)
  · rcases List.mem_append.mp hc with hc | hc
    · have hname : frontmatterName.all (fun c => c != '{' && c != '}' && c != '&') = true := by decide
      simpa [and_assoc] using List.all_eq_true.mp hname c hc
    · exact hblank (hright c hc)

/-! ### The rest of the text -/

/-- The text without the raw tags for the block. -/
def others (cs : List Char) : List Char := withoutFrontmatterTags cs.length cs

theorem length_lt_of_afterFrontmatterTag? (h : afterFrontmatterTag? cs = some rest) :
    rest.length < cs.length := by
  rcases beginsWithTag_of_afterFrontmatterTag? h with ⟨b, -, rfl⟩ | ⟨b, -, rfl⟩ <;>
    simp only [List.length_cons, List.length_append] <;> omega

theorem withoutFrontmatterTags_eq_others {fuel : Nat} (h : cs.length ≤ fuel) :
    withoutFrontmatterTags fuel cs = others cs := by
  induction fuel using Nat.strongRecOn generalizing cs with
  | ind fuel ih =>
      cases cs with
      | nil => cases fuel <;> rfl
      | cons c cs =>
          obtain ⟨fuel, rfl⟩ : ∃ k, fuel = k + 1 := ⟨fuel - 1, by simp at h; omega⟩
          have hcs : cs.length ≤ fuel := by simpa using h
          rw [others, List.length_cons, withoutFrontmatterTags, withoutFrontmatterTags]
          cases hafter : afterFrontmatterTag? (c :: cs) with
          | none =>
              dsimp only
              rw [ih fuel (by omega) hcs, ih cs.length (by omega) le_rfl]
          | some rest =>
              have hrest := length_lt_of_afterFrontmatterTag? hafter
              rw [List.length_cons] at hrest
              dsimp only
              rw [ih fuel (by omega) (by omega), ih cs.length (by omega) (by omega)]

theorem others_of_tag (h : afterFrontmatterTag? cs = some rest) : others cs = others rest := by
  cases cs with
  | nil => cases h
  | cons c cs =>
      have hrest := length_lt_of_afterFrontmatterTag? h
      rw [List.length_cons] at hrest
      rw [others, List.length_cons, withoutFrontmatterTags, h]
      exact withoutFrontmatterTags_eq_others (by omega)

theorem others_cons {c : Char} (h : afterFrontmatterTag? (c :: cs) = none) :
    others (c :: cs) = c :: others cs := by
  rw [others, List.length_cons, withoutFrontmatterTags, h]
  rfl

/-- A tag that begins before braces, in a text that does not end in one, also ends before them. -/
theorem BeginsWithTag.exists_suffix {first : Char} {closing : List Char} (hclosing : '{' ∉ closing)
    (hu : u.getLast? ≠ some '{') (hne : u ≠ [])
    (h : BeginsWithTag first closing (u ++ '{' :: v) rest) :
    ∃ w, w <:+ u ∧ rest = w ++ '{' :: v := by
  obtain ⟨b, hb, hcs⟩ := h
  have htail : '{' ∉ b ++ closing := fun hmem =>
    (List.mem_append.mp hmem).elim (fun hmem => (hb.ne_of_mem hmem).1 rfl) hclosing
  match u, hne with
  | [_], _ => simp_all
  | [_, _], _ => simp_all
  | c :: d :: e :: u, _ =>
      simp only [List.cons_append, List.cons.injEq, ← List.append_assoc b] at hcs
      obtain ⟨-, -, -, hcs⟩ := hcs
      rcases List.append_eq_append_iff.mp hcs with ⟨w, hw, hv⟩ | ⟨w, rfl, hrest⟩
      · cases w with
        | nil => exact ⟨[], List.nil_suffix, by simpa using hv.symm⟩
        | cons f w =>
            obtain rfl : '{' = f := (List.cons.inj hv).1
            exact absurd (hw ▸ by simp) htail
      · exact ⟨w, (List.suffix_append _ w).trans (List.suffix_append [c, d, e] _), hrest⟩

theorem getLast?_ne_of_suffix {c : Char} (h : w <:+ u) (hu : u.getLast? ≠ some c) :
    w.getLast? ≠ some c := by
  obtain ⟨before, rfl⟩ := h
  intro hw
  rw [List.getLast?_append, hw] at hu
  exact hu rfl

/-- Taking out the tags from a place on where braces begin: the rest is the end of what is left of
the whole text. -/
theorem others_isSuffix (hu : u.getLast? ≠ some '{') :
    others ('{' :: v) <:+ others (u ++ '{' :: v) := by
  induction hn : u.length using Nat.strongRecOn generalizing u with
  | ind n ih =>
      cases u with
      | nil => exact List.suffix_refl _
      | cons c u =>
          cases hafter : afterFrontmatterTag? (c :: (u ++ '{' :: v)) with
          | none =>
              rw [List.cons_append, others_cons hafter]
              have hlast := getLast?_ne_of_suffix (List.suffix_cons c u) hu
              exact (ih _ (by simp [← hn]) hlast rfl).trans (List.suffix_cons c _)
          | some rest =>
              have hlt := length_lt_of_afterFrontmatterTag? hafter
              obtain ⟨w, hw, rfl⟩ : ∃ w, w <:+ c :: u ∧ rest = w ++ '{' :: v := by
                rcases beginsWithTag_of_afterFrontmatterTag? hafter with htag | htag
                · exact htag.exists_suffix (by decide) hu (List.cons_ne_nil c u)
                · exact htag.exists_suffix (by decide) hu (List.cons_ne_nil c u)
              rw [List.cons_append, others_of_tag hafter]
              refine ih _ ?_ (getLast?_ne_of_suffix hw hu) rfl
              simp only [List.length_cons, List.length_append] at hlt hn
              omega

/-! ### Texts without other raw tags -/

/-- Without the raw tags for the block, no triple braces and no braces with an ampersand are
left. -/
def IsQuiet (cs : List Char) : Prop :=
  ¬ ['{', '{', '{'] <:+: others cs ∧ ¬ ['{', '{', '&'] <:+: others cs

theorem IsQuiet.of_append (hu : u.getLast? ≠ some '{') (h : IsQuiet (u ++ '{' :: v)) :
    IsQuiet ('{' :: v) :=
  ⟨fun hinf => h.1 (hinf.trans (others_isSuffix hu).isInfix),
    fun hinf => h.2 (hinf.trans (others_isSuffix hu).isInfix)⟩

/-- Some tag for the block begins at one of the first three characters of a text that would
otherwise keep them. -/
theorem exists_tag_of_not_prefix {c d e : Char} (h : ¬ [c, d, e] <+: others (c :: d :: e :: cs)) :
    (∃ rest, afterFrontmatterTag? (c :: d :: e :: cs) = some rest) ∨
      (∃ rest, afterFrontmatterTag? (d :: e :: cs) = some rest) ∨
      ∃ rest, afterFrontmatterTag? (e :: cs) = some rest := by
  by_contra hnone
  simp only [not_or, ← Option.ne_none_iff_exists', not_not] at hnone
  obtain ⟨hfirst, hsecond, hthird⟩ := hnone
  rw [others_cons hfirst, others_cons hsecond, others_cons hthird] at h
  exact h (List.prefix_append [c, d, e] _)

end TabNotes.Template
