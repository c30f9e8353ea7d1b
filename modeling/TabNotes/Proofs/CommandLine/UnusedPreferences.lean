import TabNotes.Proofs.CommandLine.ExcludedTabs
import TabNotes.Proofs.CommandLine.Inputs

/-! # Preferences that are not taken

A preference that is not of the kind that its name takes is ignored in favour of the default one:
two exports with preferences that are put to the same use print the same, report the same and write
the same (`sameRun_of_sameInUse`). -/

namespace TabNotes.CommandLine

open TabNotes.Files TabNotes.Note TabNotes.Obsidian TabNotes.Preferences

variable {s : Surroundings} {a : Arguments} {source : String} {files files' : Tree} {l : Location}
  {preferences preferences' : Entries}

/-- Two trees with the same snapshot and the same template file for an export, and with preferences
that are put to the same use. -/
structure SameInUse (s : Surroundings) (a : Arguments) (source : String) (files files' : Tree) :
    Prop where
  place : ∃ l, files.AgreeBut l files'
  preferences : ∃ preferences preferences',
    resultOver (choosePreferences s a) files = .ok preferences ∧
    resultOver (choosePreferences s a) files' = .ok preferences' ∧ SameUse preferences preferences'
  snapshot : ∀ path, resultOver (snapshotPath s source) files = .ok path →
    resultOver (loadSnapshot s path) files = resultOver (loadSnapshot s path) files'
  template : ∀ preferences, resultOver (chooseTemplate s a preferences) files =
    resultOver (chooseTemplate s a preferences) files'

/-- Two given results. -/
abbrev Given {α : Type} (first second : α) (files files' : Tree) : α → α → Tree → Tree → Prop :=
  Relating (fun a b => a = first ∧ b = second) (These files files')

theorem alike_loadUsualPreferences_given (hplace : files.AgreeBut l files') {verbose : Bool}
    {p : Path} (h : resultOver (loadUsualPreferences s verbose p) files = .ok preferences)
    (h' : resultOver (loadUsualPreferences s verbose p) files' = .ok preferences') :
    Alike s.logTime s.logTime (These files files') (loadUsualPreferences s verbose p)
      (loadUsualPreferences s verbose p) (Given preferences preferences' files files') := by
  have hexists := resultOver_fileExists hplace s p
  rw [loadUsualPreferences, (Silent.fileExists s p).resultOver_bind] at h h'
  refine (Alike.known (.fileExists s p) (.fileExists s p) hexists).bind_related ?_
  rintro isThere _ ⟨rfl, hthere⟩
  rw [hthere] at h
  rw [← hexists, hthere] at h'
  cases isThere with
  | false =>
      have hpure := @Silent.pure Entries Preferences.defaults
      refine (Alike.log s s verbose _).bind_equally fun _ => .of_results hpure hpure ?_ ?_
      · exact (hpure.resultOver_log_bind s verbose _ files).symm.trans h
      · exact (hpure.resultOver_log_bind s verbose _ files').symm.trans h'
  | true =>
      have hload := Silent.loadPreferences s p
      refine (Alike.log s s verbose _).bind_equally fun _ => .of_results hload hload ?_ ?_
      · exact (hload.resultOver_log_bind s verbose _ files).symm.trans h
      · exact (hload.resultOver_log_bind s verbose _ files').symm.trans h'

theorem alike_choosePreferences_given (hplace : files.AgreeBut l files')
    (h : resultOver (choosePreferences s a) files = .ok preferences)
    (h' : resultOver (choosePreferences s a) files' = .ok preferences') :
    Alike s.logTime s.logTime (These files files') (choosePreferences s a) (choosePreferences s a)
      (Given preferences preferences' files files') := by
  revert h h'
  unfold choosePreferences
  cases given? a.config with
  | some text =>
      have hload := (Silent.pathOf s text).bind fun p => .loadPreferences s p
      exact fun h h' => .of_results hload hload h h'
  | none =>
      cases given? (s.valueOf? preferencesVariable) with
      | none => exact fun h h' => .of_results (.pure _) (.pure _) h h'
      | some text =>
          intro h h'
          have hpath := resultOver_pathOf s text files files'
          dsimp only at h h'
          rw [(Silent.pathOf s text).resultOver_bind] at h h'
          refine (Alike.known (.pathOf s text) (.pathOf s text) hpath).bind_related ?_
          rintro p _ ⟨rfl, hp⟩
          rw [hp] at h
          rw [← hpath, hp] at h'
          exact alike_loadUsualPreferences_given hplace h h'

/-! ### The note -/

/-- The same note, with preferences that are put to the same use. -/
def SameDraft (draft draft' : Draft) : Prop :=
  draft.note = draft'.note ∧ SameUse draft.preferences draft'.preferences

section note

variable (hbag : preferences.IsBag) (hbag' : preferences'.IsBag)
  (huse : SameUse preferences preferences')
include hbag hbag' huse

theorem settingsOf_congr (a : Arguments) (snapshot : Snapshot) :
    settingsOf (optionsOf a preferences snapshot) =
      settingsOf (optionsOf a preferences' snapshot) := by
  rw [settingsOf_optionsOf, settingsOf_optionsOf, ofPreferences_update_defaults hbag.toDistinct,
    ofPreferences_update_defaults hbag'.toDistinct, huse.settings_eq]

theorem format_congr_of_sameUse {template template' : Value}
    (htemplate : resolveFormat template = resolveFormat template') (tabs : List Value)
    (snapshot : Snapshot) :
    Note.format s.clock tabs template (optionsOf a preferences snapshot) =
      Note.format s.clock tabs template' (optionsOf a preferences' snapshot) := by
  have hcontext : Context.of s.clock tabs (optionsOf a preferences snapshot) =
      Context.of s.clock tabs (optionsOf a preferences' snapshot) := by
    rw [Context.of, Context.of, settingsOf_congr hbag hbag' huse]
    rfl
  have hformat : ∀ context, formatContext context template = formatContext context template' := by
    intro context
    rw [formatContext, formatContext, htemplate]
  rw [Note.format, Note.format, hcontext, funext hformat]

theorem alike_makeDraft_of_sameUse
    (htemplate : ∀ preferences, resultOver (chooseTemplate s a preferences) files =
      resultOver (chooseTemplate s a preferences) files') (snapshot : Snapshot)
    (tabs : List Value) :
    Alike s.logTime s.logTime (These files files') (makeDraft s a preferences snapshot tabs)
      (makeDraft s a preferences' snapshot tabs)
      (Relating SameDraft (These files files')) := by
  have htemplates : Alike s.logTime s.logTime (These files files') (chooseTemplate s a preferences)
      (chooseTemplate s a preferences')
      (Relating (fun template template' => resolveFormat template = resolveFormat template')
        (These files files')) := by
    refine .of_silent (.chooseTemplate s a preferences) (.chooseTemplate s a preferences') ?_
    rintro _ _ ⟨rfl, rfl⟩
    rw [← htemplate preferences']
    unfold chooseTemplate
    cases given? a.template with
    | some text => exact .of_eq rfl fun _ _ => ⟨rfl, rfl, rfl⟩
    | none => exact .ok ⟨huse.resolveFormat_eq, rfl, rfl⟩
  refine (htemplates.complainOf _ _).bind_related fun template template' hformat => ?_
  rw [format_congr_of_sameUse hbag hbag' huse hformat]
  refine ((Alike.ofReport _).complainOf _ _).bind_equally fun note => ?_
  refine .of_silent (.pure _) (.pure _) fun _ _ htrees => .ok ⟨⟨rfl, huse⟩, htrees⟩

end note

/-! ### The run -/

theorem alike_prepare_of_sameInUse (h : SameInUse s a source files files') :
    Alike s.logTime s.logTime (These files files') (prepare s a source) (prepare s a source)
      (Relating SameDraft (These files files')) := by
  obtain ⟨l, hplace⟩ := h.place
  obtain ⟨preferences, preferences', hchosen, hchosen', huse⟩ := h.preferences
  have hbag := (areMerged_of_choosePreferences hchosen).isBag
  have hbag' := (areMerged_of_choosePreferences hchosen').isBag
  refine ((alike_choosePreferences_given hplace hchosen hchosen').complainOf _ _).bind_related ?_
  rintro preferences preferences' ⟨rfl, rfl⟩
  refine (Alike.known (.snapshotPath s source) (.snapshotPath s source)
    (resultOver_snapshotPath s source _ _)).bind_related ?_
  rintro path _ ⟨rfl, hpath⟩
  refine ((Alike.known (.loadSnapshot s path) (.loadSnapshot s path)
    (h.snapshot path hpath)).complainOf _ _).bind_related ?_
  rintro snapshot _ ⟨rfl, -⟩
  have hselect : ∀ tabs,
      Tab.selectFrom tabs ((Value.map preferences).get "restrictedUrls") =
        Tab.selectFrom tabs ((Value.map preferences').get "restrictedUrls") := fun tabs => by
    rw [Tab.selectFrom, Tab.selectFrom, huse.itemsIfTrue_eq]
  dsimp only
  rw [hselect]
  refine (Alike.ofResult _).bind_equally fun tabs => ?_
  refine (Alike.log s s a.verbose _).bind_equally fun _ => ?_
  cases tabs.isEmpty with
  | true => exact .complain 3 _
  | false =>
      exact alike_makeDraft_of_sameUse hbag hbag' huse h.template snapshot tabs

theorem deliver_congr {draft draft' : Draft} (h : SameDraft draft draft') :
    deliver s a draft' = deliver s a draft := by
  obtain ⟨hnote, huse⟩ := h
  have hlimit : linkLimit draft'.preferences = linkLimit draft.preferences := by
    rw [linkLimit, linkLimit, huse.orElse_eq]
  unfold deliver deliverLink
  rw [hlimit, ← huse.place_eq, hnote]

theorem alike_runExport_of_sameInUse (h : SameInUse s a source files files') :
    ∃ l, Alike s.logTime s.logTime (These files files') (runExport s a source)
      (runExport s a source) (Equally (Tree.AgreeBut l)) := by
  obtain ⟨l, hplace⟩ := h.place
  refine ⟨l, (alike_prepare_of_sameInUse h).bind_related fun draft draft' hdraft => ?_⟩
  rw [deliver_congr hdraft]
  have hdeliver := @alike_deliver l s s.clock.now s.logTime a draft
  refine (hdeliver.mono ?_).bind_equally fun _ => .pure 0
  rintro _ _ ⟨rfl, rfl⟩
  exact hplace

/-- Exports with preferences that are put to the same use do the same. -/
theorem sameRun_of_sameInUse {arguments : List String} (hread : readArguments s arguments = .ok a)
    (hexport : a.command = some "export") (hsource : given? a.source = some source)
    (h : SameInUse s a source files files') :
    SameRun s.logTime s.logTime files files' (run s arguments files) (run s arguments files') := by
  obtain ⟨l, hruns⟩ := alike_runExport_of_sameInUse h
  obtain ⟨result, result', printed, lines, lines', changes, hrun, hrun', hlines, hresult⟩ :=
    hruns ⟨[], [], files⟩ ⟨[], [], files'⟩ ⟨rfl, rfl⟩
  have hfirst := @run_export s a arguments files hread hexport
  have hsecond := @run_export s a arguments files' hread hexport
  rw [hsource] at hfirst hsecond
  dsimp only at hfirst hsecond
  rw [hfirst, hsecond, hrun, hrun']
  refine ⟨?_, rfl, ?_, changes, rfl, rfl⟩
  · cases hresult with
    | error stop => rfl
    | ok h => exact congrArg (fun code => Ending.ofSession (.ok code)) h.1
  · simpa [Traces.add] using hlines

end TabNotes.CommandLine
