import Mathlib.Data.List.Infix
import TabNotes.Text.Blank
import TabNotes.Text.Search

/-! # Replacing texts

Replacing one character is a map over the characters (`replaceAllChars_singleton`).  Replacing first
`\r\n` and then `\r` by `\n` reads every line break as `\n` (`replaceAllChars_breaks`).

Facts about what a replacement leaves are proved from left to right (`replaceAllChars_induction`).
At a character that the pattern has not, a text can be taken apart before the replacement
(`replaceAllChars_append_cons`). -/

namespace TabNotes.Text

theorem replaceFrom_eq_drop (pat new : List Char) (skip : Nat) (cs : List Char) :
    replaceFrom pat new skip cs = replaceFrom pat new 0 (cs.drop skip) := by
  induction skip generalizing cs with
  | zero => rfl
  | succ skip ih =>
      cases cs with
      | nil => rfl
      | cons c cs =>
          rw [replaceFrom, List.drop_succ_cons]
          exact ih cs

theorem replaceAllChars_cons_of_begins {pat new : List Char} {c : Char} {cs : List Char}
    (h : pat.isPrefixOf (c :: cs) = true) :
    replaceAllChars pat new (c :: cs) = new ++ replaceAllChars pat new (cs.drop (pat.length - 1)) := by
  rw [replaceAllChars, replaceFrom, if_pos h, replaceFrom_eq_drop]
  rfl

theorem replaceAllChars_cons_of_not_begins {pat new : List Char} {c : Char} {cs : List Char}
    (h : pat.isPrefixOf (c :: cs) = false) :
    replaceAllChars pat new (c :: cs) = c :: replaceAllChars pat new cs := by
  rw [replaceAllChars, replaceFrom, if_neg (by simp [h])]
  rfl

theorem isPrefixOf_cons_eq_false {pat cs : List Char} {c d : Char} (h : c = d → ¬ pat <+: cs) :
    (d :: pat).isPrefixOf (c :: cs) = false := by
  refine Bool.eq_false_iff.mpr fun hbegins => ?_
  obtain ⟨hd, hpat⟩ := List.cons_prefix_cons.mp (List.isPrefixOf_iff_prefix.mp hbegins)
  exact h hd.symm hpat

theorem replaceAllChars_singleton (c : Char) (new cs : List Char) :
    replaceAllChars [c] new cs = cs.flatMap fun d => if d = c then new else [d] := by
  induction cs with
  | nil => rfl
  | cons d cs ih =>
      rw [List.flatMap_cons, ← ih]
      by_cases hd : d = c
      · rw [replaceAllChars_cons_of_begins (by simp [hd]), if_pos hd]
        rfl
      · rw [replaceAllChars_cons_of_not_begins (by simp [List.isPrefixOf, Ne.symm hd]), if_neg hd]
        rfl

/-! ### From left to right -/

section Pattern

variable {pat new : List Char} (hpat : pat ≠ [])
include hpat

theorem replaceAllChars_append (cs : List Char) :
    replaceAllChars pat new (pat ++ cs) = new ++ replaceAllChars pat new cs := by
  obtain ⟨p, ps, rfl⟩ := List.exists_cons_of_ne_nil hpat
  have hbegins : (p :: ps).isPrefixOf (p :: (ps ++ cs)) = true :=
    List.isPrefixOf_iff_prefix.mpr (List.prefix_append (p :: ps) cs)
  rw [List.cons_append, replaceAllChars_cons_of_begins hbegins]
  simp

/-- A text and what a replacement leaves of it, read from left to right: characters are kept, and
occurrences of the pattern replaced. -/
theorem replaceAllChars_induction {motive : List Char → List Char → Prop} (nil : motive [] [])
    (keep : ∀ c cs, ¬ pat <+: c :: cs → motive cs (replaceAllChars pat new cs) →
      motive (c :: cs) (c :: replaceAllChars pat new cs))
    (replace : ∀ cs, motive cs (replaceAllChars pat new cs) →
      motive (pat ++ cs) (new ++ replaceAllChars pat new cs)) (cs : List Char) :
    motive cs (replaceAllChars pat new cs) := by
  -- on the length, since an occurrence of the pattern is passed as a whole
  induction hn : cs.length using Nat.strongRecOn generalizing cs with
  | ind n ih =>
    subst hn
    cases cs with
    | nil => exact nil
    | cons c cs =>
        by_cases hbegins : pat <+: c :: cs
        · obtain ⟨more, hmore⟩ := hbegins
          have hlength := congrArg List.length hmore
          have hpos := List.length_pos_iff.mpr hpat
          rw [List.length_append, List.length_cons] at hlength
          rw [← hmore, replaceAllChars_append hpat]
          exact replace more (ih more.length (by rw [List.length_cons]; omega) more rfl)
        · have hnot : pat.isPrefixOf (c :: cs) = false :=
            Bool.eq_false_iff.mpr fun h => hbegins (List.isPrefixOf_iff_prefix.mp h)
          rw [replaceAllChars_cons_of_not_begins hnot]
          exact keep c cs hbegins (ih cs.length (by simp) cs rfl)

theorem mem_replaceAllChars {c : Char} {cs : List Char} :
    c ∈ replaceAllChars pat new cs → c ∈ cs ∨ c ∈ new := by
  refine @replaceAllChars_induction pat new hpat
    (fun cs left => c ∈ left → c ∈ cs ∨ c ∈ new) ?_ ?_ ?_ cs
  · exact Or.inl
  · intro d cs _ ih hc
    rcases List.mem_cons.mp hc with rfl | hc
    · exact .inl List.mem_cons_self
    · exact (ih hc).imp_left (List.mem_cons_of_mem d)
  · intro cs ih hc
    rcases List.mem_append.mp hc with hc | hc
    · exact .inr hc
    · exact (ih hc).imp_left (List.mem_append_right pat)

/-- What a replacement leaves is the text itself, or holds the new text. -/
theorem replaceAllChars_eq_self_or_infix (cs : List Char) :
    replaceAllChars pat new cs = cs ∨ new <:+: replaceAllChars pat new cs := by
  refine @replaceAllChars_induction pat new hpat
    (fun cs left => left = cs ∨ new <:+: left) ?_ ?_ ?_ cs
  · exact .inl rfl
  · intro c cs _ ih
    rcases ih with ih | ih
    · exact .inl (by rw [ih])
    · exact .inr (ih.trans (List.suffix_cons c _).isInfix)
  · intro cs _
    exact .inr (List.prefix_append new _).isInfix

theorem head?_replaceAllChars (hnew : new ≠ []) (cs : List Char) {c : Char} :
    c ∈ (replaceAllChars pat new cs).head? → c ∈ cs.head? ∨ c ∈ new.head? := by
  refine @replaceAllChars_induction pat new hpat
    (fun cs left => c ∈ left.head? → c ∈ cs.head? ∨ c ∈ new.head?) ?_ ?_ ?_ cs
  · exact Or.inl
  · intro d cs _ _ hc
    exact .inl hc
  · intro cs _ hc
    rw [List.head?_append_of_ne_nil new hnew] at hc
    exact .inr hc

theorem replaceAllChars_eq_nil_iff (hnew : new ≠ []) {cs : List Char} :
    replaceAllChars pat new cs = [] ↔ cs = [] := by
  refine @replaceAllChars_induction pat new hpat
    (fun cs left => left = [] ↔ cs = []) ?_ ?_ ?_ cs
  · exact Iff.rfl
  · intro c cs _ _
    simp
  · intro cs _
    simp [hpat, hnew]

theorem getLast?_replaceAllChars (hnew : new ≠ []) (cs : List Char) {c : Char} :
    c ∈ (replaceAllChars pat new cs).getLast? → c ∈ cs.getLast? ∨ c ∈ new.getLast? := by
  refine @replaceAllChars_induction pat new hpat
    (fun cs left => c ∈ left.getLast? → c ∈ cs.getLast? ∨ c ∈ new.getLast?) ?_ ?_ ?_ cs
  · exact Or.inl
  · intro d cs _ ih hc
    cases cs with
    | nil => exact .inl hc
    | cons e cs =>
        have hne : replaceAllChars pat new (e :: cs) ≠ [] := by
          rw [ne_eq, replaceAllChars_eq_nil_iff hpat hnew]
          exact List.cons_ne_nil e cs
        rw [List.getLast?_cons_of_ne_nil hne] at hc
        exact ih hc
  · intro cs ih hc
    cases cs with
    | nil =>
        rw [replaceAllChars, replaceFrom, List.append_nil] at hc
        exact .inr hc
    | cons e cs =>
        have hne : replaceAllChars pat new (e :: cs) ≠ [] := by
          rw [ne_eq, replaceAllChars_eq_nil_iff hpat hnew]
          exact List.cons_ne_nil e cs
        rw [List.getLast?_append_of_ne_nil _ hne] at hc
        rw [List.getLast?_append_of_ne_nil _ (List.cons_ne_nil e cs)]
        exact ih hc

theorem replaceAllChars_append_cons {c : Char} (hc : c ∉ pat) (cs ds : List Char) :
    replaceAllChars pat new (cs ++ c :: ds) =
      replaceAllChars pat new cs ++ c :: replaceAllChars pat new ds := by
  have hkeep : ∀ d es, ¬ pat <+: d :: es →
      replaceAllChars pat new (d :: es) = d :: replaceAllChars pat new es := by
    intro d es hnot
    rw [replaceAllChars_cons_of_not_begins]
    exact Bool.eq_false_iff.mpr fun h => hnot (List.isPrefixOf_iff_prefix.mp h)
  have hbefore : ∀ es, pat <+: es ++ c :: ds → pat <+: es := by
    intro es hes
    by_contra hnot
    have hlong : (es ++ [c]) <+: pat := by
      refine List.prefix_of_prefix_length_le ⟨ds, by simp⟩ hes ?_
      by_contra hshort
      refine hnot (List.prefix_of_prefix_length_le hes (List.prefix_append es _) ?_)
      simp only [List.length_append, List.length_singleton] at hshort
      omega
    exact hc (hlong.subset (by simp))
  refine @replaceAllChars_induction pat new hpat
    (fun cs left => replaceAllChars pat new (cs ++ c :: ds) =
      left ++ c :: replaceAllChars pat new ds) ?_ ?_ ?_ cs
  · have hnot : ¬ pat <+: c :: ds := fun h => hpat (List.prefix_nil.mp (hbefore [] h))
    rw [List.nil_append, List.nil_append, hkeep c ds hnot]
  · intro d es hnot ih
    have hmore : ¬ pat <+: d :: (es ++ c :: ds) := fun h => hnot (hbefore (d :: es) h)
    rw [List.cons_append, hkeep d _ hmore, ih, List.cons_append]
  · intro es ih
    rw [List.append_assoc, replaceAllChars_append hpat, ih, List.append_assoc]

omit hpat in
/-- Nothing is replaced in a text without the first character of the pattern. -/
theorem replaceAllChars_of_not_mem {c : Char} (ps : List Char) {cs : List Char} (h : c ∉ cs) :
    replaceAllChars (c :: ps) new cs = cs := by
  induction cs with
  | nil => rfl
  | cons d cs ih =>
      rw [List.mem_cons, not_or] at h
      have hnot : (c :: ps).isPrefixOf (d :: cs) = false := by
        simp [List.isPrefixOf, h.1]
      rw [replaceAllChars_cons_of_not_begins hnot, ih h.2]

/-- Pieces joined at a character that the pattern has not are replaced one by one. -/
theorem replaceAllChars_intercalate {sep : Char} (hsep : sep ∉ pat) (pieces : List (List Char)) :
    replaceAllChars pat new ([sep].intercalate pieces) =
      [sep].intercalate (pieces.map (replaceAllChars pat new)) := by
  induction pieces with
  | nil => rfl
  | cons piece pieces ih =>
      cases pieces with
      | nil => simp
      | cons next pieces =>
          rw [List.map_cons] at ih
          rw [List.map_cons, List.map_cons, List.intercalate_cons_cons, List.intercalate_cons_cons,
            List.append_assoc, List.singleton_append, replaceAllChars_append_cons hpat hsep, ih,
            List.append_assoc, List.singleton_append]

end Pattern

/-! ### Line breaks -/

theorem unifyLineBreaks_cons_of_ne {c : Char} (h : c ≠ '\r') (cs : List Char) :
    unifyLineBreaks (c :: cs) = c :: unifyLineBreaks cs := by
  rw [unifyLineBreaks]
  · rintro _ rfl
    exact absurd rfl h
  · rintro rfl
    exact absurd rfl h

theorem unifyLineBreaks_append_of_not_mem {cs : List Char} (h : '\r' ∉ cs) (more : List Char) :
    unifyLineBreaks (cs ++ more) = cs ++ unifyLineBreaks more := by
  induction cs with
  | nil => rfl
  | cons c cs ih =>
      rw [List.mem_cons, not_or] at h
      rw [List.cons_append, unifyLineBreaks_cons_of_ne (Ne.symm h.1), ih h.2, List.cons_append]

theorem unifyLineBreaks_of_not_mem {cs : List Char} (h : '\r' ∉ cs) : unifyLineBreaks cs = cs := by
  have happend := unifyLineBreaks_append_of_not_mem h []
  rwa [List.append_nil, unifyLineBreaks, List.append_nil] at happend

theorem unifyLineBreaks_cr_cons {cs : List Char} (h : cs.head? ≠ some '\n') :
    unifyLineBreaks ('\r' :: cs) = '\n' :: unifyLineBreaks cs := by
  rw [unifyLineBreaks]
  rintro _ rfl
  exact absurd rfl h

theorem replaceAllChars_breaks (cs : List Char) :
    replaceAllChars ['\r'] ['\n'] (replaceAllChars ['\r', '\n'] ['\n'] cs) = unifyLineBreaks cs := by
  fun_induction unifyLineBreaks cs with
  | case1 => rfl
  | case2 cs ih =>
      rw [replaceAllChars_cons_of_begins (by rfl), List.singleton_append,
        replaceAllChars_cons_of_not_begins (by rfl)]
      exact congrArg _ ih
  | case3 cs hnext ih =>
      have hpair : ['\r', '\n'].isPrefixOf ('\r' :: cs) = false := by
        cases cs with
        | nil => rfl
        | cons c cs =>
            have hc : '\n' ≠ c := fun hc => hnext cs (by rw [hc])
            simp [List.isPrefixOf, hc]
      rw [replaceAllChars_cons_of_not_begins hpair, replaceAllChars_cons_of_begins (by rfl)]
      exact congrArg _ ih
  | case4 c cs hpair hcr ih =>
      have hne : '\r' ≠ c := fun hc => hcr hc.symm
      rw [replaceAllChars_cons_of_not_begins (by simp [List.isPrefixOf, hne]),
        replaceAllChars_cons_of_not_begins (by simp [List.isPrefixOf, hne]), ih]

end TabNotes.Text
