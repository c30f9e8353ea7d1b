import TabNotes.CommandLine.Run
import TabNotes.Proofs.Runs

/-! # A switch among other arguments

Arguments are gone through one after the other, so those that stand by themselves can be gone
through first (`scan_append`).  The switch for links changes nothing but itself, wherever it stands
as an argument of its own (`readArguments_withLink`). -/

namespace TabNotes.CommandLine

open TabNotes.Files TabNotes.Time

variable {a b : Arguments} {before after : List String}

/-- The surroundings of a session in a directory, at a moment on a local clock in UTC: no variable is
set and no home is known, and every line can be printed. -/
def Surroundings.bare (directory : Location) (now : Moment) : Surroundings where
  environment := []
  workingDirectory := directory
  ownHome := none
  homes := []
  clock := ⟨now, .utc⟩
  logTime := ""
  output := .everything
  standIns := .notIn []
  nesting := 1000

/-- The arguments with the switch for links. -/
def Arguments.withLink (a : Arguments) : Arguments := { a with obsidian := true }

theorem Arguments.withLink_set (a : Arguments) (which : ValueOption) (value : String) :
    (a.set which value).withLink = a.withLink.set which value := by
  cases which <;> rfl

theorem scan_append (h : scan a before = .ok b) : scan a (before ++ after) = scan b after := by
  fun_induction scan a before with
  | case1 a =>
      cases h
      rfl
  | case3 a argument which hargument value arguments ih =>
      rw [List.cons_append, List.cons_append, scan, hargument]
      exact ih h
  | case4 a argument arguments which value hargument ih
  | case5 a argument arguments hargument ih
  | case6 a argument arguments hargument ih
  | case9 a argument arguments hargument ih =>
      rw [List.cons_append, scan, hargument]
      exact ih h
  | _ => cases h

theorem scan_withLink (a : Arguments) (arguments : List String) :
    scan a.withLink arguments = (scan a arguments).map Arguments.withLink := by
  fun_induction scan a arguments with
  | case1 a => rfl
  | case3 a argument which hargument value arguments ih =>
      rw [scan, hargument, ← ih, Arguments.withLink_set]
  | case4 a argument arguments which value hargument ih =>
      rw [scan, hargument, ← ih, Arguments.withLink_set]
  | case5 a argument arguments hargument ih
  | case6 a argument arguments hargument ih
  | case9 a argument arguments hargument ih =>
      rw [scan, hargument, ← ih]
      rfl
  | case2 a argument which hargument
  | case7 a argument arguments hargument
  | case8 a argument arguments hargument =>
      rw [scan, hargument]
      rfl

theorem readArguments_eq_ok_iff {s : Surroundings} {arguments : List String} :
    readArguments s arguments = .ok a ↔
      scan (.none (isOn false (s.valueOf? verboseVariable))) arguments = .ok a ∧
        a.positional.drop 2 = [] := by
  constructor
  · intro h
    obtain ⟨a', hscan, h⟩ := bind_eq_ok_iff.mp h
    split at h
    · rename_i hdrop
      cases h
      exact ⟨hscan, hdrop⟩
    · cases h
  · rintro ⟨hscan, hdrop⟩
    refine bind_eq_ok_iff.mpr ⟨a, hscan, ?_⟩
    rw [hdrop]
    rfl

/-- Where arguments that are accepted by themselves end, the switch for links can be added. -/
theorem readArguments_withLink {s : Surroundings} (hbefore : readArguments s before = .ok b)
    (h : readArguments s (before ++ after) = .ok a) :
    readArguments s (before ++ "--obsidian" :: after) = .ok a.withLink := by
  obtain ⟨hbefore, -⟩ := readArguments_eq_ok_iff.mp hbefore
  obtain ⟨hscan, hdrop⟩ := readArguments_eq_ok_iff.mp h
  refine readArguments_eq_ok_iff.mpr ⟨?_, hdrop⟩
  have hswitch : Argument.of "--obsidian" = .obsidian := by decide
  rw [scan_append hbefore] at hscan ⊢
  rw [scan, hswitch]
  have hwith := scan_withLink b after
  rw [hscan] at hwith
  exact hwith

end TabNotes.CommandLine
