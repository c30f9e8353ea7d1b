import Mathlib.Data.List.DropRight
import Mathlib.Data.List.Infix
import TabNotes.Text.Search

/-! # Leftmost occurrences and pieces

`cutAt_eq_some_iff` says exactly when a text is cut into two given sides: the pattern stands between
them and begins nowhere inside the first one.  A pattern that repeats one character begins nowhere
inside a text in which it does not occur and which does not end in that character
(`cutAt_replicate_eq_some_iff`); all patterns of tags are of this kind.  At one character a text is
cut in the first of its places (`cutAtChar_cases`).

A text is split into pieces without a cut in them (`not_isCut_of_mem_splitBy`), and a piece before a
cut is the first one (`splitBy_append_cons`).  Splitting at a character and joining at it undo each
other (`splitBy_intercalate`, `intercalate_splitBy`). -/

namespace TabNotes.Text

theorem cutAt_self_append (pat after : List Char) : cutAt pat (pat ++ after) = some ([], after) := by
  cases h : pat ++ after with
  | nil =>
      obtain ⟨rfl, rfl⟩ := List.append_eq_nil_iff.mp h
      rfl
  | cons c cs =>
      have hp : pat.isPrefixOf (c :: cs) = true :=
        List.isPrefixOf_iff_prefix.mpr (h ▸ List.prefix_append pat after)
      rw [cutAt, if_pos hp, ← h, List.drop_left]

theorem cutAt_cons_of_not_begins {pat cs : List Char} {c : Char} (h : ¬ pat <+: c :: cs) :
    cutAt pat (c :: cs) = (cutAt pat cs).map fun cut => (c :: cut.1, cut.2) := by
  rw [cutAt, if_neg (by rwa [List.isPrefixOf_iff_prefix])]

/-- The cut is at the first place where the pattern begins. -/
theorem cutAt_eq_some_iff {pat cs before after : List Char} :
    cutAt pat cs = some (before, after) ↔
      cs = before ++ (pat ++ after) ∧
        ∀ v, v <:+ before → v ≠ [] → ¬ pat <+: v ++ (pat ++ after) := by
  constructor
  · intro h
    refine ⟨by rw [cutAt_eq_some h, List.append_assoc], ?_⟩
    induction cs generalizing before with
    | nil =>
        have hcs := cutAt_eq_some h
        simp only [List.nil_eq, List.append_eq_nil_iff] at hcs
        intro v hv hne
        rw [hcs.1.1, List.suffix_nil] at hv
        exact absurd hv hne
    | cons c cs ih =>
        by_cases hp : pat <+: c :: cs
        · rw [cutAt, if_pos (List.isPrefixOf_iff_prefix.mpr hp)] at h
          obtain ⟨rfl, -⟩ := Prod.mk.inj (Option.some.inj h)
          intro v hv hne
          exact absurd (List.suffix_nil.mp hv) hne
        · rw [cutAt_cons_of_not_begins hp] at h
          obtain ⟨⟨b, a⟩, hcut, hba⟩ := Option.map_eq_some_iff.mp h
          obtain ⟨rfl, rfl⟩ := Prod.mk.inj hba
          intro v hv hne
          rcases List.suffix_cons_iff.mp hv with rfl | hv
          · rw [cutAt_eq_some hcut, List.append_assoc] at hp
            exact hp
          · exact ih hcut v hv hne
  · rintro ⟨rfl, h⟩
    induction before with
    | nil => exact cutAt_self_append pat after
    | cons c before ih =>
        have hp := h (c :: before) (List.suffix_refl _) (List.cons_ne_nil _ _)
        rw [List.cons_append] at hp ⊢
        rw [cutAt_cons_of_not_begins hp,
          ih fun v hv => h v (hv.trans (List.suffix_cons c before))]
        rfl

theorem cutAt_of_cutAt_append {pat u cs before after : List Char}
    (h : cutAt pat (u ++ cs) = some (u ++ before, after)) : cutAt pat cs = some (before, after) := by
  obtain ⟨hcs, hfirst⟩ := cutAt_eq_some_iff.mp h
  rw [List.append_assoc, List.append_cancel_left_eq] at hcs
  exact cutAt_eq_some_iff.mpr ⟨hcs, fun v hv => hfirst v (hv.trans (List.suffix_append u before))⟩

/-- What follows a text does not move the first place where the pattern begins in it. -/
theorem cutAt_append {pat cs before after : List Char} (h : cutAt pat cs = some (before, after))
    (ds : List Char) : cutAt pat (cs ++ ds) = some (before, after ++ ds) := by
  obtain ⟨rfl, hfirst⟩ := cutAt_eq_some_iff.mp h
  refine cutAt_eq_some_iff.mpr ⟨by simp, fun v hv hne hp => hfirst v hv hne ?_⟩
  rw [← List.append_assoc pat, ← List.append_assoc v] at hp
  exact List.prefix_of_prefix_length_le hp (List.prefix_append _ ds) (by simp; omega)

/-- There is no cut exactly in the texts in which the pattern does not occur. -/
theorem cutAt_eq_none_iff {pat cs : List Char} : cutAt pat cs = none ↔ ¬ pat <:+: cs := by
  induction cs with
  | nil => cases pat <;> simp [cutAt]
  | cons c cs ih =>
      rw [List.infix_cons_iff, not_or]
      by_cases hp : pat <+: c :: cs
      · simp [cutAt, List.isPrefixOf_iff_prefix.mpr hp, hp]
      · rw [cutAt_cons_of_not_begins hp, Option.map_eq_none_iff, ih]
        simp [hp]

theorem occursIn_iff {pat s : String} : occursIn pat s = true ↔ pat.toList <:+: s.toList := by
  rw [occursIn, Option.isSome_iff_ne_none, ne_eq, cutAt_eq_none_iff, not_not]

/-- Before a cut the pattern does not occur. -/
theorem not_infix_before_cutAt {pat cs before after : List Char} (hpat : pat ≠ [])
    (h : cutAt pat cs = some (before, after)) : ¬ pat <:+: before := by
  rintro ⟨u, w, rfl⟩
  have hv : pat ++ w <:+ u ++ pat ++ w := ⟨u, by rw [List.append_assoc]⟩
  refine (cutAt_eq_some_iff.mp h).2 (pat ++ w) hv (by simp [hpat]) ?_
  exact (List.prefix_append pat w).trans (List.prefix_append _ _)

/-! ### Patterns that repeat one character -/

variable {c : Char} {k : Nat} {cs before after : List Char}

theorem getLast?_eq_of_suffix_of_prefix_replicate {v : List Char} (hv : v <:+ before) (hne : v ≠ [])
    (hp : v <+: List.replicate k c) : before.getLast? = some c := by
  obtain ⟨u, rfl⟩ := hv
  have hlast : v.getLast hne = c :=
    List.eq_of_mem_replicate (hp.subset (List.getLast_mem hne))
  rw [List.getLast?_append_of_ne_nil u hne, List.getLast?_eq_some_getLast hne, hlast]

/-- A text is cut at a run of one character where the run first occurs, and that is also where the
characters before it end. -/
theorem cutAt_replicate_eq_some_iff (hk : 0 < k) :
    cutAt (List.replicate k c) cs = some (before, after) ↔
      cs = before ++ (List.replicate k c ++ after) ∧
        ¬ List.replicate k c <:+: before ∧ before.getLast? ≠ some c := by
  have hpat : List.replicate k c ≠ [] := by simp; omega
  constructor
  · intro h
    obtain ⟨hcs, hfirst⟩ := cutAt_eq_some_iff.mp h
    refine ⟨hcs, not_infix_before_cutAt hpat h, fun hlast => ?_⟩
    obtain ⟨u, rfl⟩ := List.getLast?_eq_some_iff.mp hlast
    refine hfirst [c] (List.suffix_append u [c]) (by simp) ⟨c :: after, ?_⟩
    rw [List.singleton_append, ← List.cons_append, ← List.replicate_succ, List.replicate_succ']
    simp
  · rintro ⟨hcs, hinf, hlast⟩
    refine cutAt_eq_some_iff.mpr ⟨hcs, fun v hv hne hp => ?_⟩
    rcases Nat.le_total k v.length with hle | hle
    · have hpre : List.replicate k c <+: v :=
        List.prefix_of_prefix_length_le hp (List.prefix_append v _) (by simpa using hle)
      exact hinf (hpre.isInfix.trans hv.isInfix)
    · have hpre : v <+: List.replicate k c :=
        List.prefix_of_prefix_length_le (List.prefix_append v _) hp (by simpa using hle)
      exact hlast (getLast?_eq_of_suffix_of_prefix_replicate hv hne hpre)

/-- A text without a character is what stands before a pattern that begins with it. -/
theorem cutAt_cons_of_not_mem (more : List Char) (h : c ∉ before) :
    cutAt (c :: more) (before ++ (c :: more ++ after)) = some (before, after) := by
  refine cutAt_eq_some_iff.mpr ⟨rfl, fun v hv hne hp => ?_⟩
  obtain ⟨d, v, rfl⟩ := List.exists_cons_of_ne_nil hne
  obtain rfl : c = d := (List.cons_prefix_cons.mp hp).1
  exact h (hv.subset List.mem_cons_self)

theorem cutAt_singleton_of_not_mem (h : c ∉ before) :
    cutAt [c] (before ++ c :: after) = some (before, after) :=
  cutAt_cons_of_not_mem [] h

/-! ### Cutting at one character -/

theorem cutAtChar_of_not_mem (h : c ∉ cs) : cutAtChar c cs = (cs, none) := by
  have hnone : cutAt [c] cs = none := by
    rw [cutAt_eq_none_iff, List.singleton_infix_iff]
    exact h
  rw [cutAtChar, hnone]

theorem cutAtChar_append_cons (h : c ∉ before) (after : List Char) :
    cutAtChar c (before ++ c :: after) = (before, some after) := by
  rw [cutAtChar, cutAt_singleton_of_not_mem h]

/-- A text is cut at the first place of a character, or has the character nowhere. -/
theorem cutAtChar_cases (c : Char) (cs : List Char) :
    (c ∉ cs ∧ cutAtChar c cs = (cs, none)) ∨
      ∃ before after, c ∉ before ∧ cs = before ++ c :: after ∧
        cutAtChar c cs = (before, some after) := by
  by_cases h : c ∈ cs
  · obtain ⟨before, after, hcs, hbefore⟩ := List.eq_append_cons_of_mem h
    refine .inr ⟨before, after, hbefore, hcs, ?_⟩
    rw [hcs, cutAtChar_append_cons hbefore]
  · exact .inl ⟨h, cutAtChar_of_not_mem h⟩

theorem not_mem_cutAtChar (c : Char) (cs : List Char) : c ∉ (cutAtChar c cs).1 := by
  rcases cutAtChar_cases c cs with ⟨hc, h⟩ | ⟨before, after, hc, -, h⟩ <;> rwa [h]

theorem cutAtChar_isPrefix (c : Char) (cs : List Char) : (cutAtChar c cs).1 <+: cs := by
  rcases cutAtChar_cases c cs with ⟨-, h⟩ | ⟨before, after, -, hcs, h⟩
  · rw [h]
  · rw [h, hcs]
    exact List.prefix_append before _

theorem afterLast_eq (c : Char) (cs : List Char) : afterLast c cs = cs.rtakeWhile (· != c) := rfl

theorem afterLast_of_not_mem (h : c ∉ cs) : afterLast c cs = cs := by
  rw [afterLast_eq, List.rtakeWhile_eq_self_iff]
  intro d hd
  refine bne_iff_ne.mpr ?_
  rintro rfl
  exact h hd

theorem not_mem_afterLast (c : Char) (cs : List Char) : c ∉ afterLast c cs := fun h => by
  simpa using List.mem_rtakeWhile_imp h

theorem afterLast_isSuffix (c : Char) (cs : List Char) : afterLast c cs <:+ cs :=
  List.rtakeWhile_suffix _ cs

/-! ### Splitting -/

variable {isCut : Char → Bool} {piece more : List Char}

/-- Splitting is that of the library, so that its lemmas apply. -/
theorem splitBy_eq_splitOnP (isCut : Char → Bool) (cs : List Char) :
    splitBy isCut cs = cs.splitOnP isCut := by
  induction cs with
  | nil => rfl
  | cons c cs ih =>
      rw [splitBy, ih, List.splitOnP_cons_eq_if_modifyHead]
      split
      · rename_i hnil
        exact absurd hnil (List.splitOnP_ne_nil isCut cs)
      · rename_i hpieces
        rw [hpieces, List.modifyHead_cons]

theorem splitBy_char_eq_splitOn (sep : Char) (cs : List Char) :
    splitBy (· == sep) cs = cs.splitOn sep :=
  (splitBy_eq_splitOnP _ cs).trans List.splitOn_eq_splitOnP.symm

theorem splitBy_ne_nil (isCut : Char → Bool) (cs : List Char) : splitBy isCut cs ≠ [] := by
  rw [splitBy_eq_splitOnP]
  exact List.splitOnP_ne_nil isCut cs

theorem splitBy_cons_of_isCut (h : isCut c = true) (cs : List Char) :
    splitBy isCut (c :: cs) = [] :: splitBy isCut cs := by
  rw [splitBy_eq_splitOnP, splitBy_eq_splitOnP, List.splitOnP_cons_eq_if_modifyHead, if_pos h]

theorem splitBy_cons_of_not_isCut (h : isCut c = false) (cs : List Char) :
    ∃ piece pieces, splitBy isCut cs = piece :: pieces ∧
      splitBy isCut (c :: cs) = (c :: piece) :: pieces := by
  obtain ⟨piece, pieces, hpieces⟩ := List.exists_cons_of_ne_nil (splitBy_ne_nil isCut cs)
  exact ⟨piece, pieces, hpieces, by simp [splitBy, hpieces, h]⟩

theorem splitBy_concat_of_not_isCut (h : isCut c = false) (cs : List Char) :
    ∃ pieces piece, splitBy isCut cs = pieces ++ [piece] ∧
      splitBy isCut (cs ++ [c]) = pieces ++ [piece ++ [c]] := by
  induction cs with
  | nil => exact ⟨[], [], rfl, by simp [splitBy, h]⟩
  | cons d cs ih =>
      obtain ⟨pieces, piece, hcs, hconcat⟩ := ih
      cases hd : isCut d with
      | true =>
          refine ⟨[] :: pieces, piece, ?_, ?_⟩
          · rw [splitBy_cons_of_isCut hd, hcs, List.cons_append]
          · rw [List.cons_append, splitBy_cons_of_isCut hd, hconcat, List.cons_append]
      | false =>
          rw [List.cons_append, splitBy, splitBy, hcs, hconcat]
          cases pieces with
          | nil => exact ⟨[], d :: piece, by simp [hd], by simp [hd]⟩
          | cons first pieces =>
              exact ⟨(d :: first) :: pieces, piece, by simp [hd], by simp [hd]⟩

theorem splitBy_of_not_isCut (h : ∀ c ∈ piece, isCut c = false) :
    splitBy isCut piece = [piece] := by
  rw [splitBy_eq_splitOnP, List.splitOnP_eq_singleton h]

/-- What stands before the first cut is the first piece. -/
theorem splitBy_append_cons (h : ∀ c ∈ piece, isCut c = false) (hc : isCut c = true) :
    splitBy isCut (piece ++ c :: more) = piece :: splitBy isCut more := by
  rw [splitBy_eq_splitOnP, splitBy_eq_splitOnP, List.splitOnP_append_cons_of_forall_mem h c hc]

/-- Splitting undoes joining, for pieces that do not hold the character between them. -/
theorem splitBy_intercalate {sep : Char} {pieces : List (List Char)} (hne : pieces ≠ [])
    (h : ∀ piece ∈ pieces, sep ∉ piece) :
    splitBy (· == sep) ([sep].intercalate pieces) = pieces := by
  rw [splitBy_char_eq_splitOn, List.splitOn_intercalate sep h hne]

theorem subset_of_mem_splitBy (hp : piece ∈ splitBy isCut cs) : piece ⊆ cs := by
  induction cs generalizing piece with
  | nil =>
      rw [splitBy, List.mem_singleton] at hp
      rw [hp]
      exact List.nil_subset []
  | cons d cs ih =>
      cases hd : isCut d with
      | true =>
          rw [splitBy_cons_of_isCut hd, List.mem_cons] at hp
          rcases hp with rfl | hp
          · exact List.nil_subset _
          · exact List.subset_cons_of_subset d (ih hp)
      | false =>
          obtain ⟨first, pieces, hpieces, hcons⟩ := splitBy_cons_of_not_isCut hd cs
          rw [hpieces] at ih
          rw [hcons, List.mem_cons] at hp
          rcases hp with rfl | hp
          · exact List.cons_subset_cons d (ih List.mem_cons_self)
          · exact List.subset_cons_of_subset d (ih (List.mem_cons_of_mem first hp))

theorem splitBy_congr {isCut' : Char → Bool} (h : ∀ c ∈ cs, isCut c = isCut' c) :
    splitBy isCut cs = splitBy isCut' cs := by
  induction cs with
  | nil => rfl
  | cons c cs ih =>
      rw [splitBy, splitBy, ih fun d hd => h d (List.mem_cons_of_mem c hd),
        h c List.mem_cons_self]

/-- Joining undoes splitting. -/
theorem intercalate_splitBy (sep : Char) (cs : List Char) :
    [sep].intercalate (splitBy (· == sep) cs) = cs := by
  rw [splitBy_char_eq_splitOn, List.intercalate_splitOn]

/-- What is added to joined pieces goes to the last one. -/
theorem intercalate_concat_append (sep : List Char) (pieces : List (List Char))
    (piece ending : List Char) :
    sep.intercalate (pieces ++ [piece]) ++ ending = sep.intercalate (pieces ++ [piece ++ ending]) := by
  induction pieces with
  | nil => simp
  | cons first pieces ih =>
      obtain ⟨next, more, hmore⟩ :=
        List.exists_cons_of_ne_nil (List.append_ne_nil_of_right_ne_nil pieces (List.cons_ne_nil piece []))
      obtain ⟨next', more', hmore'⟩ := List.exists_cons_of_ne_nil
        (List.append_ne_nil_of_right_ne_nil pieces (List.cons_ne_nil (piece ++ ending) []))
      rw [hmore, hmore'] at ih
      rw [List.cons_append, List.cons_append, hmore, hmore', List.intercalate_cons_cons,
        List.intercalate_cons_cons, List.append_assoc, ih]

/-- No piece holds a character at which texts are cut. -/
theorem not_isCut_of_mem_splitBy (hp : piece ∈ splitBy isCut cs) : ∀ c ∈ piece, isCut c = false := by
  induction cs generalizing piece with
  | nil =>
      rw [splitBy, List.mem_singleton] at hp
      simp [hp]
  | cons d cs ih =>
      cases hd : isCut d with
      | true =>
          rw [splitBy_cons_of_isCut hd, List.mem_cons] at hp
          rcases hp with rfl | hp
          · exact List.forall_mem_nil _
          · exact ih hp
      | false =>
          obtain ⟨first, pieces, hpieces, hcons⟩ := splitBy_cons_of_not_isCut hd cs
          rw [hpieces] at ih
          rw [hcons, List.mem_cons] at hp
          rcases hp with rfl | hp
          · exact List.forall_mem_cons.mpr ⟨hd, ih List.mem_cons_self⟩
          · exact ih (List.mem_cons_of_mem first hp)

end TabNotes.Text
