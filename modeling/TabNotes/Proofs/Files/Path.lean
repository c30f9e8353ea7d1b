import TabNotes.Files.Path
import TabNotes.Proofs.Text.Search

/-! # The texts of paths

The names of a path that was read from a text are neither empty nor do they hold a slash, so the text
of such a path holds no two slashes but at its start.  In particular a path that is written is never
a link: it does not begin with the name of a scheme and two slashes (`not_scheme_prefix_text`). -/

namespace TabNotes.Files.Path

open TabNotes.Text

variable {p p' : Path} {name : String}

/-- A name between two slashes. -/
def IsName (name : String) : Prop := name ≠ "" ∧ '/' ∉ name.toList

theorem isName_of_mem_namesOf {s : String} (h : name ∈ namesOf s) : IsName name := by
  obtain ⟨hpiece, hkept⟩ := List.mem_filter.mp h
  simp only [Bool.and_eq_true, bne_iff_ne, ne_eq] at hkept
  refine ⟨hkept.1, fun hslash => ?_⟩
  obtain ⟨piece, hmem, rfl⟩ := List.mem_map.mp hpiece
  rw [String.toList_ofList] at hslash
  have hnone := not_isCut_of_mem_splitBy hmem '/' hslash
  simp at hnone

/-- A path from the root, or one whose names are such names. -/
def IsWritten (p : Path) : Prop := p.start = .here → ∀ name ∈ p.names, IsName name

theorem isWritten_ofText (s : String) : IsWritten (ofText s) := fun _ _ h => isName_of_mem_namesOf h

theorem IsWritten.expandHome {homeOf : String → Option String} (h : IsWritten p)
    (hhome : p.expandHome homeOf = some p') : IsWritten p' := by
  unfold Path.expandHome at hhome
  split at hhome
  · rename_i name names hstart hnames
    have hsplit : ∀ name ∈ names, IsName name := fun name hname =>
      h hstart name (hnames ▸ List.mem_cons_of_mem _ hname)
    split at hhome
    · rename_i user huser
      cases hfound : homeOf (String.ofList user) with
      | none =>
          rw [hfound] at hhome
          cases hhome
      | some home =>
          rw [hfound] at hhome
          change (if beginsWith "~" home then none else some _) = some p' at hhome
          split at hhome
          · cases hhome
          · cases hhome
            intro _ other hother
            rcases List.mem_append.mp hother with hstarting | hfollowing
            · exact isName_of_mem_namesOf hstarting
            · exact hsplit other hfollowing
    · cases hhome
      exact h
  · cases hhome
    exact h

theorem splitBy_text (hstart : p.start = .here) (hnames : ∀ name ∈ p.names, IsName name)
    (hne : p.names ≠ []) : splitBy (· == '/') p.text.toList = p.names.map String.toList := by
  have htext : p.text.toList = ['/'].intercalate (p.names.map String.toList) := by
    have hempty : p.names.isEmpty = false := by simpa using hne
    rw [text, hstart, hempty]
    simp [Start.text, String.toList_intercalate]
  rw [htext]
  refine splitBy_intercalate (by simpa using hne) fun piece hpiece => ?_
  obtain ⟨name, hname, rfl⟩ := List.mem_map.mp hpiece
  exact (hnames name hname).2

theorem exists_text_of_start_ne_here (hstart : p.start ≠ .here) :
    ∃ cs, p.text.toList = '/' :: cs := by
  have hhere : (p.start == .here && p.names.isEmpty) = false := by
    rw [beq_false_of_ne hstart, Bool.false_and]
  rw [text, hhere, if_neg (by simp), String.toList_append]
  cases hcase : p.start with
  | here => exact absurd hcase hstart
  | root => exact ⟨_, rfl⟩
  | doubleRoot => exact ⟨_, rfl⟩

/-- A path that is written is no link. -/
theorem not_scheme_prefix_text (h : IsWritten p) {scheme : List Char} (hne : scheme ≠ [])
    (hslash : '/' ∉ scheme) (more : List Char) : ¬ scheme ++ '/' :: '/' :: more <+: p.text.toList := by
  rintro ⟨rest, htext⟩
  by_cases hstart : p.start = .here
  · by_cases hnames : p.names = []
    · have hdot : p.text.toList = ['.'] := by
        rw [text, hstart, hnames]
        rfl
      have hlength := congrArg List.length (htext.trans hdot)
      simp only [List.length_append, List.length_cons, List.length_nil] at hlength
      omega
    · -- the two slashes make an empty name
      have hcut : ∀ d ∈ scheme, (d == '/') = false := fun d hd =>
        beq_false_of_ne fun heq => hslash (heq ▸ hd)
      have hpieces := splitBy_text hstart (h hstart) hnames
      rw [← htext, List.append_assoc, List.cons_append, splitBy_append_cons hcut (by simp),
        List.cons_append, splitBy_cons_of_isCut (by simp)] at hpieces
      have hmem : [] ∈ p.names.map String.toList := by
        rw [← hpieces]
        exact List.mem_cons_of_mem _ List.mem_cons_self
      obtain ⟨name, hname, hnil⟩ := List.mem_map.mp hmem
      exact (h hstart name hname).1 (String.toList_eq_nil_iff.mp hnil)
  · obtain ⟨c, cs, rfl⟩ := List.exists_cons_of_ne_nil hne
    obtain ⟨tail, htail⟩ := exists_text_of_start_ne_here hstart
    have hhead := htext.trans htail
    exact hslash ((List.cons.inj hhead).1 ▸ List.mem_cons_self)

end TabNotes.Files.Path
