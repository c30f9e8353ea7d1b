import Mathlib.Data.List.DropRight
import TabNotes.Text.Blank

/-! # Trimmed texts

`IsTrimmed` says that a text has no white space at either end.  Trimming gives such a text
(`isTrimmed_trimChars`), changes nothing in one (`trimChars_eq_self_iff`), and takes away white
space that is put around one (`trimChars_padded`). -/

namespace TabNotes.Text

/-- No white space at either end. -/
def IsTrimmed (cs : List Char) : Prop :=
  (∀ c ∈ cs.head?, isBlank c = false) ∧ ∀ c ∈ cs.getLast?, isBlank c = false

instance (cs : List Char) : Decidable (IsTrimmed cs) :=
  @instDecidableAnd _ _ (Option.decidableForallMem _) (Option.decidableForallMem _)

theorem isBlank_of_isDigit {c : Char} (h : c.isDigit = true) : isBlank c = false := by
  have hrange : 48 ≤ c.toNat ∧ c.toNat ≤ 57 := Char.isDigit_iff_toNat.mp h
  simp only [isBlank, Bool.or_eq_false_iff, Bool.and_eq_false_imp, decide_eq_true_eq,
    decide_eq_false_iff_not, beq_eq_false_iff_ne]
  omega

theorem dropTrailingBlanks_concat (cs : List Char) (c : Char) :
    dropTrailingBlanks (cs ++ [c]) = if isBlank c then dropTrailingBlanks cs else cs ++ [c] := by
  induction cs with
  | nil => rfl
  | cons d cs ih =>
      rw [List.cons_append, dropTrailingBlanks, ih]
      by_cases hc : isBlank c
      · simp [hc, dropTrailingBlanks]
      · rw [if_neg hc, if_neg hc]
        split
        · rename_i h
          simp at h
        · rfl

theorem dropTrailingBlanks_eq (cs : List Char) :
    dropTrailingBlanks cs = cs.rdropWhile isBlank := by
  induction cs using List.reverseRecOn with
  | nil => rfl
  | append_singleton cs c ih => rw [dropTrailingBlanks_concat, List.rdropWhile_concat, ih]

theorem dropTrailingBlanks_isPrefix (cs : List Char) : dropTrailingBlanks cs <+: cs := by
  rw [dropTrailingBlanks_eq]
  exact List.rdropWhile_prefix isBlank cs

theorem trimChars_eq (cs : List Char) :
    trimChars cs = (cs.dropWhile isBlank).rdropWhile isBlank :=
  dropTrailingBlanks_eq _

/-- What trimming leaves is a part of the text. -/
theorem trimChars_isInfix (cs : List Char) : trimChars cs <:+: cs := by
  rw [trimChars_eq]
  exact (List.rdropWhile_prefix isBlank _).isInfix.trans (List.dropWhile_suffix isBlank).isInfix

theorem isTrimmed_trimChars (cs : List Char) : IsTrimmed (trimChars cs) := by
  rw [trimChars_eq]
  constructor
  · intro c hc
    have hne : (cs.dropWhile isBlank).rdropWhile isBlank ≠ [] := by
      rintro h
      simp [h] at hc
    obtain ⟨rest, hrest⟩ := List.rdropWhile_prefix isBlank (cs.dropWhile isBlank)
    have hhead : (cs.dropWhile isBlank).head? = some c := by
      rw [← hrest, List.head?_append_of_ne_nil _ hne]
      exact hc
    simpa [hhead] using List.head?_dropWhile_not isBlank cs
  · intro c hc
    have hne : (cs.dropWhile isBlank).rdropWhile isBlank ≠ [] := by
      rintro h
      simp [h] at hc
    have hlast := List.rdropWhile_last_not isBlank (cs.dropWhile isBlank) hne
    rw [List.getLast?_eq_some_getLast hne, Option.mem_some_iff] at hc
    rw [hc] at hlast
    simpa using hlast

theorem trimChars_eq_self_iff {cs : List Char} : trimChars cs = cs ↔ IsTrimmed cs := by
  constructor
  · intro h
    exact h ▸ isTrimmed_trimChars cs
  · rintro ⟨hhead, hlast⟩
    have hdrop : cs.dropWhile isBlank = cs := by
      cases cs with
      | nil => rfl
      | cons c cs => rw [List.dropWhile_cons_of_neg (by simp [hhead c (by simp)])]
    rw [trimChars_eq, hdrop, List.rdropWhile_eq_self_iff]
    intro hne
    simp [hlast _ (List.getLast_mem_getLast? hne)]

@[simp] theorem trimChars_cons_of_isBlank {c : Char} (hc : isBlank c = true) (cs : List Char) :
    trimChars (c :: cs) = trimChars cs := by
  rw [trimChars, dropBlanks, List.dropWhile_cons_of_pos hc]
  rfl

@[simp] theorem trimChars_concat_of_isBlank {c : Char} (hc : isBlank c = true) (cs : List Char) :
    trimChars (cs ++ [c]) = trimChars cs := by
  rw [trimChars_eq, trimChars_eq, List.dropWhile_append]
  split
  · rename_i h
    rw [List.isEmpty_iff.mp h, List.dropWhile_cons_of_pos hc]
    rfl
  · rw [List.rdropWhile_concat, if_pos hc]

theorem trimChars_append_of_isBlank_left {left : List Char} (h : ∀ c ∈ left, isBlank c = true)
    (cs : List Char) : trimChars (left ++ cs) = trimChars cs := by
  induction left with
  | nil => rfl
  | cons c left ih =>
      rw [List.cons_append, trimChars_cons_of_isBlank (h c List.mem_cons_self)]
      exact ih fun d hd => h d (List.mem_cons_of_mem c hd)

theorem trimChars_append_of_isBlank_right {right : List Char} (h : ∀ c ∈ right, isBlank c = true)
    (cs : List Char) : trimChars (cs ++ right) = trimChars cs := by
  induction right generalizing cs with
  | nil => rw [List.append_nil]
  | cons c right ih =>
      rw [List.append_cons, ih fun d hd => h d (List.mem_cons_of_mem c hd)]
      exact trimChars_concat_of_isBlank (h c List.mem_cons_self) cs

theorem trimChars_dropTrailingBlanks (cs : List Char) :
    trimChars (dropTrailingBlanks cs) = trimChars cs := by
  induction cs using List.reverseRecOn with
  | nil => rfl
  | append_singleton cs c ih =>
      rw [dropTrailingBlanks_concat]
      split
      · rename_i hc
        rw [ih, trimChars_concat_of_isBlank hc]
      · rfl

theorem dropTrailingBlanks_append_cons {c : Char} (hc : isBlank c = false) (before cs : List Char) :
    dropTrailingBlanks (before ++ c :: cs) = before ++ c :: dropTrailingBlanks cs := by
  induction cs using List.reverseRecOn with
  | nil => rw [dropTrailingBlanks_concat, if_neg (by simp [hc])]; rfl
  | append_singleton cs d ih =>
      rw [← List.cons_append, ← List.append_assoc, dropTrailingBlanks_concat,
        dropTrailingBlanks_concat, ih]
      split <;> simp

/-- Nothing is left of a text exactly when it holds nothing but white space. -/
theorem trim_eq_empty_iff {s : String} : trim s = "" ↔ allBlank s = true := by
  rw [trim, String.ofList_eq_empty_iff, trimChars_eq, List.rdropWhile_eq_nil_iff, allBlank,
    List.all_eq_true]
  constructor
  · intro h
    refine List.dropWhile_eq_nil_iff.mp (List.eq_nil_iff_forall_not_mem.mpr fun c hc => ?_)
    have hne : s.toList.dropWhile isBlank ≠ [] := List.ne_nil_of_mem hc
    have hhead := List.head_dropWhile_not isBlank hne
    rw [h _ (List.head_mem hne)] at hhead
    cases hhead
  · intro h c hc
    exact h c ((List.dropWhile_sublist isBlank).mem hc)

@[simp] theorem trim_trim (s : String) : trim (trim s) = trim s := by
  rw [trim, trim, String.toList_ofList, trimChars_eq_self_iff.mpr (isTrimmed_trimChars _)]

/-- Trimming takes away white space around a trimmed text. -/
theorem trimChars_padded {cs : List Char} (h : IsTrimmed cs) :
    trimChars (' ' :: (cs ++ [' '])) = cs := by
  rw [trimChars_cons_of_isBlank (by decide), trimChars_concat_of_isBlank (by decide),
    trimChars_eq_self_iff.mpr h]

end TabNotes.Text
