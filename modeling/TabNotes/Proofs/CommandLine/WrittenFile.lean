import TabNotes.Proofs.CommandLine.Delivery
import TabNotes.Proofs.Files.Path

/-! # The one file that a run writes

A run changes no file, or it is an export that writes one file, prints its path and ends with status
0 (`run_writes_at_most_one_file`).  That is so where the note can be encoded and the path of its file
printed (`EndsInFile`): both are found out only after the file has been opened.  New directories do
not count: they stay also when a fault comes after them. -/

namespace TabNotes.CommandLine

open TabNotes.Files TabNotes.Note TabNotes.Obsidian

variable {s : Surroundings} {a : Arguments} {note : Formatted} {draft : Draft} {place : Place}
  {source : String} {files files' left : Tree} {cause : Fault}

/-! ### Files that stay -/

/-- Two trees with the same files, each with the same content. -/
def SameFiles (files files' : Tree) : Prop :=
  ∀ l content, files'.node? l = some (.file content) ↔ files.node? l = some (.file content)

theorem SameFiles.refl (files : Tree) : SameFiles files files := fun _ _ => Iff.rfl

theorem SameFiles.of_grows (h : files.Grows files') : SameFiles files files' := by
  intro l content
  rcases h l with hsame | ⟨hnone, hnew⟩
  · rw [hsame]
  · rw [hnone, hnew]
    simp

/-! ### Notes and paths without faults -/

/-- A note that can be encoded, and the path of its file printed. -/
structure EndsInFile (s : Surroundings) (a : Arguments) (note : Formatted) : Prop where
  encoded : s.standIns.fault? note.markdown = none
  printed : ∀ p, outputOf s a note = .ok p → s.output.fault? p.text = none

/-- A fault before the file is written leaves new directories at most. -/
theorem grows_of_fileNote_error (hnote : EndsInFile s a note)
    (h : fileNote s a note files = (.error cause, left)) : files.Grows left := by
  obtain ⟨made, hgrows, ⟨cause, hfault⟩ | ⟨p, written, hpath, -, hfiled⟩⟩ :=
    fileNote_cases s a note files
  · rw [hfault] at h
    cases h
    exact hgrows
  · rw [hfiled, shownPath_eq_ok_iff.mpr ⟨rfl, hnote.encoded, hnote.printed p hpath⟩] at h
    cases h

theorem sameFiles_of_delivery_error (hnote : EndsInFile s a draft.note)
    (h : delivery s a place draft files = (.error cause, left)) : SameFiles files left := by
  unfold delivery at h
  split at h
  · cases h
    exact .refl files
  · cases h
  · rcases hfile : fileNote s a draft.note files with ⟨other | p, written⟩
    · rw [hfile] at h
      cases h
      exact .of_grows (grows_of_fileNote_error hnote hfile)
    · rw [hfile] at h
      cases h

/-! ### Sessions that leave the tree -/

/-- A session that leaves the tree as it is, whatever it prints and however it ends. -/
def LeavesTree {α : Type} (x : Session α) : Prop := ∀ t, (x.run.run t).2.files = t.files

namespace LeavesTree

variable {α β : Type}

theorem of_onlyReads {x : Session α} {result : Tree → Except Stop α} (h : OnlyReads x result) :
    LeavesTree x := by
  intro t
  obtain ⟨lines, hrun⟩ := h.run t
  rw [hrun]

theorem bind {x : Session α} {f : α → Session β} (hx : LeavesTree x) (hf : ∀ a, LeavesTree (f a)) :
    LeavesTree (x >>= f) := by
  intro t
  have hfirst := hx t
  rw [run_bind]
  rcases hrun : x.run.run t with ⟨stop | a, t'⟩
  · rw [hrun] at hfirst
    exact hfirst
  · rw [hrun] at hfirst
    exact (hf a t').trans hfirst

theorem reports (lines : List String) : LeavesTree (lines.forM Session.report) := by
  intro t
  rw [run_forM_report]

theorem print (s : Surroundings) (line : String) : LeavesTree (Session.print s line) := by
  intro t
  unfold Session.print
  cases s.output.fault? line <;> rfl

theorem runValidate (s : Surroundings) (source : String) : LeavesTree (runValidate s source) := by
  have htext := (Silent.pathOf s source).bind fun p => .readText s p
  refine (of_onlyReads (htext.onlyReads.complainOf _ _)).bind fun template => ?_
  refine (reports _).bind fun _ => (reports _).bind fun _ => ?_
  split
  · exact (print s _).bind fun _ _ => rfl
  · exact fun _ => rfl

end LeavesTree

/-! ### Exports -/

theorem isWritten_of_outputOf {p : Path} (h : outputOf s a note = .ok p) : p.IsWritten := by
  unfold outputOf at h
  split at h
  · rename_i text _
    split at h
    · rename_i found hhome
      cases h
      exact (Path.isWritten_ofText text).expandHome hhome
    · cases h
  · cases h
    intro hstart
    cases hstart

/-- The path of a file that is written is no link. -/
theorem not_newNote_prefix_of_fileNote {p : Path} (h : fileNote s a note files = (.ok p, left)) :
    ¬ newNote.toList <+: p.text.toList :=
  @Path.not_scheme_prefix_text p (isWritten_of_outputOf (fileNote_eq_ok h).1) "obsidian:".toList
    (by decide) (by decide) "new".toList

/-! ### Runs -/

/-- Arguments for an export that prepares a draft. -/
structure Prepares (s : Surroundings) (arguments : List String) (files : Tree) (a : Arguments)
    (source : String) (draft : Draft) : Prop where
  accepted : readArguments s arguments = .ok a
  command : a.command = some "export"
  named : given? a.source = some source
  prepared : ((prepare s a source).run.run ⟨[], [], files⟩).1 = .ok draft

/-- A run of an export that wrote its note to one file. -/
structure ExportedFile (s : Surroundings) (arguments : List String) (files : Tree)
    (result : Ending × Traces) (a : Arguments) (source : String) (draft : Draft) (p : Path) :
    Prop extends Prepares s arguments files a source draft where
  ending : result.1 = .status 0
  wrote : WroteFile s files result.2 p draft.note.markdown
  no_link : ¬ newNote.toList <+: p.text.toList

theorem leavesTree_runCommand (h : a.command ≠ some "export") : LeavesTree (runCommand s a) := by
  unfold runCommand
  split
  · rename_i hcommand _
    exact absurd hcommand h
  · exact .runValidate s _
  · exact .of_onlyReads (.complain (by decide) usage)

theorem files_of_not_export {arguments : List String} (hread : readArguments s arguments = .ok a)
    (h : a.command ≠ some "export") : (run s arguments files).2.files = files := by
  rw [run, hread]
  exact leavesTree_runCommand h ⟨[], [], files⟩

theorem sameFiles_or_exportedFile {arguments : List String}
    (h : ∀ a source draft, Prepares s arguments files a source draft → EndsInFile s a draft.note) :
    SameFiles files (run s arguments files).2.files ∨ ∃ a source draft p,
      ExportedFile s arguments files (run s arguments files) a source draft p := by
  cases hread : readArguments s arguments with
  | error cause =>
      rw [run, hread]
      exact .inl (.refl files)
  | ok a =>
      by_cases hexport : a.command = some "export"
      · have hrun := @run_export s a arguments files hread hexport
        cases hsource : given? a.source with
        | none =>
            rw [hrun, hsource]
            exact .inl (.refl files)
        | some source =>
            rw [hsource] at hrun
            dsimp only at hrun
            obtain ⟨result, hreads⟩ := exists_onlyReads_prepare s a source
            obtain ⟨lines, hprepare⟩ := hreads.run ⟨[], [], files⟩
            cases hresult : result files with
            | error stop =>
                rw [hresult] at hprepare
                rw [hrun, run_runExport_error hprepare]
                exact .inl (.refl files)
            | ok draft =>
                rw [hresult] at hprepare
                have hprepares : Prepares s arguments files a source draft :=
                  ⟨hread, hexport, hsource, congrArg Prod.fst hprepare⟩
                obtain ⟨place, hplace, -⟩ := exists_place draft.preferences
                obtain ⟨shown, hdelivered⟩ := run_runExport hprepare hplace
                rw [hrun, hdelivered]
                rcases hdelivery : delivery s a place draft files with ⟨cause | line, left⟩
                · exact .inl (sameFiles_of_delivery_error (h a source draft hprepares) hdelivery)
                · rcases delivery_eq_ok hdelivery with ⟨-, p, hfile, rfl⟩ | ⟨-, rfl⟩
                  · exact .inr ⟨a, source, draft, p, hprepares, rfl, wroteFile_of_fileNote hfile,
                      not_newNote_prefix_of_fileNote hfile⟩
                  · exact .inl (.refl left)
      · rw [files_of_not_export hread hexport]
        exact .inl (.refl files)

/-- A run of which any note can be encoded and its path printed changes no file, or it is an export
that wrote its note to one file and printed the path of that.  It changes no file in particular when
it does not end with status 0, when its arguments name another command, and when it prints a link. -/
theorem run_writes_at_most_one_file {arguments : List String}
    (h : ∀ a source draft, Prepares s arguments files a source draft → EndsInFile s a draft.note) :
    (SameFiles files (run s arguments files).2.files ∨ ∃ a source draft p,
      ExportedFile s arguments files (run s arguments files) a source draft p) ∧
    ((run s arguments files).1 ≠ .status 0 ∨
        (∃ a, readArguments s arguments = .ok a ∧ a.command ≠ some "export") ∨
        (∃ line ∈ (run s arguments files).2.printed, newNote.toList <+: line.toList) →
      SameFiles files (run s arguments files).2.files) := by
  have hcases := sameFiles_or_exportedFile h
  refine ⟨hcases, fun hother => hcases.resolve_right ?_⟩
  rintro ⟨a, source, draft, p, hexported⟩
  rcases hother with hstatus | ⟨b, hread, hcommand⟩ | ⟨line, hline, hlink⟩
  · exact hstatus hexported.ending
  · obtain rfl := Except.ok.inj (hread.symm.trans hexported.accepted)
    exact hcommand hexported.command
  · rw [hexported.wrote.printed, List.mem_singleton] at hline
    subst hline
    exact hexported.no_link hlink

/-- The fault for which a draft cannot be encoded, if there is one and a draft. -/
def draftFault? (s : Surroundings) (result : Except Stop Draft) : Option Fault :=
  match result with
  | .ok draft => s.standIns.fault? draft.note.markdown
  | .error _ => none

theorem run_writes_at_most_one_file_homeExport :
    ∃ a source draft p,
      ExportedFile atHome homeExport homeFiles (run atHome homeExport homeFiles) a source draft p := by
  have hends : ∀ a source draft, Prepares atHome homeExport homeFiles a source draft →
      EndsInFile atHome a draft.note := by
    rintro a source draft ⟨⟨⟩, -, ⟨⟩, hdraft⟩
    have hfault : ∀ a, readArguments atHome homeExport = .ok a →
        draftFault? atHome ((prepare atHome a "tabs.json").run.run ⟨[], [], homeFiles⟩).1 = none := by
      rintro a ⟨⟩
      decide +kernel
    have hdraftFault := hfault _ rfl
    rw [hdraft] at hdraftFault
    exact ⟨hdraftFault, fun _ _ => rfl⟩
  obtain ⟨hnew, hfile⟩ :
      (run atHome homeExport homeFiles).2.files.node? ["home", "2024-01-02T03-04-00_OpenTabs.md"] ≠
          none ∧
        (run atHome homeExport homeFiles).2.files.node? ["home", "2024-01-02T03-04-00_OpenTabs.md"] ≠
          some .directory := by
    decide +kernel
  obtain ⟨hsame | hexported, -⟩ := run_writes_at_most_one_file hends
  · cases hnode : (run atHome homeExport homeFiles).2.files.node?
        ["home", "2024-01-02T03-04-00_OpenTabs.md"] with
    | none => exact absurd hnode hnew
    | some node =>
        cases node with
        | directory => exact absurd hnode hfile
        | file content => cases (hsame _ content).mp hnode
  · exact hexported

end TabNotes.CommandLine
