import TabNotes.Proofs.CommandLine.Reading
import TabNotes.Proofs.Json
import TabNotes.Proofs.Preferences

/-! # What a run reads

Reading comes to its result or stops for a fault of a kind that the commands expect, if the paths of
the files are known (`expects_choosePreferences_of_file`, `expects_loadSnapshot`,
`expects_chooseTemplate`).  What is read from a file in JSON holds documents. -/

namespace TabNotes.CommandLine

open TabNotes.Files TabNotes.Frontmatter TabNotes.Json TabNotes.Note

variable {α β : Type} {expected : FaultKind → Bool} {good : α → Prop} {after : β → Prop}
  {result : Except Stop α} {s : Surroundings} {a : Arguments} {files : Tree} {p : Path}

/-! ### Expected faults -/

/-- A good result, or a fault of a kind that is expected. -/
def Expects (expected : FaultKind → Bool) (good : α → Prop) : Except Stop α → Prop
  | .ok a => good a
  | .error (.fault cause) => expected cause.kind = true
  | .error (.status _) => False

theorem Expects.bind {next : α → Except Stop β} (h : Expects expected good result)
    (hnext : ∀ a, good a → Expects expected after (next a)) :
    Expects expected after (result >>= next) := by
  cases result with
  | ok a => exact hnext a h
  | error stop =>
      cases stop with
      | status code => exact absurd h id
      | fault cause => exact h

theorem Expects.and_eq (h : Expects expected good result) :
    Expects expected (fun a => result = .ok a ∧ good a) result := by
  cases result with
  | ok a => exact ⟨rfl, h⟩
  | error stop => cases stop <;> exact h

theorem expects_mapError {result : Except Fault α} (hgood : ∀ a, result = .ok a → good a)
    (hfault : ∀ fault, result = .error fault → expected fault.kind = true) :
    Expects expected good (result.mapError .fault) := by
  cases result with
  | ok a => exact hgood a rfl
  | error fault => exact hfault fault rfl

/-- Where the faults that are expected become complaints, status 2 is the only way to stop. -/
theorem Expects.complaint_cases (h : Expects expected good result) :
    (∃ a, result = .ok a ∧ good a) ∨
      (∃ stop, result = .error stop) ∧
        result.mapError (complaint expected) = .error (.status 2) := by
  cases result with
  | ok a => exact .inl ⟨a, rfl, h⟩
  | error stop =>
      cases stop with
      | status code => exact absurd h id
      | fault cause =>
          have hkind : expected cause.kind = true := h
          refine .inr ⟨⟨_, rfl⟩, ?_⟩
          rw [mapError_error, complaint, if_pos hkind]

theorem Expects.mapError_complaint_ne_fault (h : Expects expected good result) (fault : Fault) :
    result.mapError (complaint expected) ≠ .error (.fault fault) := by
  intro hstop
  rcases h.complaint_cases with ⟨a, rfl, -⟩ | ⟨-, hstatus⟩
  · cases hstop
  · cases hstatus.symm.trans hstop

/-! ### Reading a file -/

theorem resultOver_ofResult (result : Except Fault α) (files : Tree) :
    resultOver (Session.ofResult result) files = result.mapError .fault := by
  cases result <;> rfl

theorem onlyReads_choosePreferences (s : Surroundings) (a : Arguments) :
    OnlyReads (choosePreferences s a) (resultOver (choosePreferences s a)) := by
  obtain ⟨result, hreads, -⟩ := @sameReading_choosePreferences s s.clock.now s.logTime a
  rwa [funext hreads.resultOver_eq]

theorem onlyReads_ofResult (result : Except Fault α) :
    OnlyReads (Session.ofResult result) fun _ => result.mapError .fault := by
  have h := (Silent.ofResult result).onlyReads
  rwa [funext (resultOver_ofResult result)] at h

theorem onlyReads_ofReport (r : Report α) :
    OnlyReads (Session.ofReport r) fun _ => r.outcome.1.mapError .fault := by
  have h := OnlyReads.ofReport r
  rwa [funext (resultOver_ofResult r.outcome.1)] at h

theorem resultOver_readText (s : Surroundings) (p : Path) (files : Tree) :
    resultOver (Session.readText s p) files =
      (files.readText s.workingDirectory p).mapError .fault :=
  resultOver_ofResult _ files

theorem resultOver_fileExists_eq (s : Surroundings) (p : Path) (files : Tree) :
    resultOver (Session.fileExists s p) files =
      (files.exists? s.workingDirectory p).mapError .fault :=
  resultOver_ofResult _ files

theorem resultOver_pathOf_eq {text : String} (h : (Path.ofText text).expandHome s.homeOf = some p)
    (files : Tree) : resultOver (Session.pathOf s text) files = .ok p := by
  rw [Session.pathOf, h]
  rfl

theorem isFileKind_kind (cause : FileRefusal) : cause.kind.isFileKind = true := by
  cases cause <;> rfl

theorem kind_of_read_eq_error {fault : Fault} {workingDirectory : Location}
    (h : files.read workingDirectory p = .error fault) :
    Tree.holdsNul p = true ∧ fault = .nulInFileName ∨ fault.kind.isFileKind = true := by
  unfold Tree.read at h
  split at h
  · rename_i hnul
    cases h
    exact .inl ⟨hnul, rfl⟩
  · split at h
    · cases h
      exact .inr (isFileKind_kind _)
    · split at h
      · cases h
      · cases h
        exact .inr rfl
      · cases h
        exact .inr rfl

theorem textOf_eq_error {content : List UInt8} {fault : Fault}
    (h : Tree.textOf content = .error fault) : ∃ cause, fault = .encoding cause := by
  unfold Tree.textOf at h
  split at h
  · cases h
  · cases h
    exact ⟨_, rfl⟩

theorem kind_of_readText_eq_error {fault : Fault} {workingDirectory : Location}
    (h : files.readText workingDirectory p = .error fault) :
    files.read workingDirectory p = .error fault ∨ ∃ cause, fault = .encoding cause := by
  rcases bind_eq_error_iff.mp h with h | ⟨content, -, h⟩
  · exact .inl h
  · exact .inr (textOf_eq_error h)

/-! ### Documents -/

/-- A snapshot from a document. -/
structure Snapshot.IsDocument (snapshot : Snapshot) : Prop where
  tabs : ∀ tab ∈ snapshot.tabs, Json.IsDocument tab
  window : Json.IsDocument snapshot.window
  groups : Json.IsDocument snapshot.groups

theorem Snapshot.isDocument_of_ofValue? {v : Value} {snapshot : Snapshot} (hv : Json.IsDocument v)
    (h : Snapshot.ofValue? v = some snapshot) : snapshot.IsDocument := by
  cases v with
  | list fixed tabs =>
      cases h
      cases hv with
      | list htabs => exact ⟨htabs, .null, .null⟩
  | map entries =>
      cases h
      refine ⟨?_, hv.get "window", hv.get "groups"⟩
      have htabs := hv.get "tabs"
      dsimp only
      split
      · rename_i fixed tabs heq
        rw [heq] at htabs
        cases htabs with
        | list htabs => exact htabs
      · simp
  | _ => cases h

/-- A file whose document, if it holds one, has no more open brackets than can be read. -/
def IsShallow (s : Surroundings) (files : Tree) (p : Path) : Prop :=
  ∀ text last, files.readText s.workingDirectory p = .ok text →
    Json.read s.standIns s.nesting text ≠ .error (.tooManyBrackets last)

/-- The faults of a document are those of values, unless it has too many brackets. -/
theorem expects_readJson
    (h : Expects expected (fun _ => True) (resultOver (Session.readText s p) files))
    (hvalue : ∀ kind : FaultKind, kind.isValueKind = true → expected kind = true)
    (hdeep : expected .recursion = true ∨ IsShallow s files p) :
    Expects expected Json.IsDocument (resultOver (readJson s p) files) := by
  rw [readJson, (Silent.readText s p).resultOver_bind]
  refine h.and_eq.bind fun text htext => ?_
  rw [resultOver_ofResult]
  obtain ⟨hgood, hfault⟩ := Json.sound_read s.standIns s.nesting text
  refine expects_mapError hgood fun fault hread => ?_
  rcases hfault fault hread with hkind | ⟨last, rfl⟩
  · exact hvalue _ hkind
  · rw [resultOver_readText, mapError_eq_ok_iff] at htext
    exact hdeep.resolve_right fun hshallow => hshallow text last htext.1 hread

theorem isShallow_of_readText {text : String} {v : Value}
    (htext : files.readText s.workingDirectory p = .ok text)
    (hread : Json.read s.standIns s.nesting text = .ok v) : IsShallow s files p := by
  intro other last hother hdeep
  obtain rfl := Except.ok.inj (htext.symm.trans hother)
  cases hread.symm.trans hdeep

/-- The kinds of faults for which a snapshot cannot be read. -/
def isSnapshotFault (kind : FaultKind) : Bool := kind.isFileKind || kind.isValueKind

section snapshots

variable (hfile : ∀ kind : FaultKind, kind.isFileKind = true → expected kind = true)
  (hvalue : ∀ kind : FaultKind, kind.isValueKind = true → expected kind = true)
  (hdeep : expected .recursion = true ∨ IsShallow s files p)
include hfile hvalue hdeep

theorem expects_loadSnapshot_of :
    Expects expected Snapshot.IsDocument (resultOver (loadSnapshot s p) files) := by
  have htext : Expects expected (fun _ => True) (resultOver (Session.readText s p) files) := by
    rw [resultOver_readText]
    refine expects_mapError (fun _ _ => trivial) fun fault h => ?_
    rcases kind_of_readText_eq_error h with h | ⟨cause, rfl⟩
    · rcases kind_of_read_eq_error h with ⟨-, rfl⟩ | hkind
      · exact hvalue .value rfl
      · exact hfile _ hkind
    · exact hvalue .encoding rfl
  rw [loadSnapshot, (Silent.readJson s p).resultOver_bind]
  refine (expects_readJson htext hvalue hdeep).bind fun v hv => ?_
  cases hsnapshot : Snapshot.ofValue? v with
  | some snapshot => exact Snapshot.isDocument_of_ofValue? hv hsnapshot
  | none => exact hvalue .value rfl

end snapshots

theorem expects_loadSnapshot (h : IsShallow s files p) :
    Expects isSnapshotFault Snapshot.IsDocument (resultOver (loadSnapshot s p) files) := by
  refine expects_loadSnapshot_of (fun kind hkind => ?_) (fun kind hkind => ?_) (.inr h)
  · rw [isSnapshotFault, hkind, Bool.true_or]
  · rw [isSnapshotFault, hkind, Bool.or_true]

/-- A snapshot that is read is one from a document. -/
theorem isDocument_of_loadSnapshot {snapshot : Snapshot}
    (h : resultOver (loadSnapshot s p) files = .ok snapshot) : snapshot.IsDocument := by
  have hloaded : Expects (fun _ => true) Snapshot.IsDocument (resultOver (loadSnapshot s p) files) :=
    expects_loadSnapshot_of (fun _ _ => rfl) (fun _ _ => rfl) (.inl rfl)
  rw [h] at hloaded
  exact hloaded

/-- The snapshot is read from its own file alone. -/
theorem resultOver_loadSnapshot_congr {files' : Tree} {p : Path}
    (h : files.readText s.workingDirectory p = files'.readText s.workingDirectory p) :
    resultOver (loadSnapshot s p) files = resultOver (loadSnapshot s p) files' := by
  have hjson : resultOver (readJson s p) files = resultOver (readJson s p) files' := by
    rw [readJson, (Silent.readText s p).resultOver_bind, (Silent.readText s p).resultOver_bind,
      resultOver_readText, resultOver_readText, h]
    simp only [resultOver_ofResult]
  rw [loadSnapshot, (Silent.readJson s p).resultOver_bind, (Silent.readJson s p).resultOver_bind,
    hjson]
  refine congrArg (_ >>= ·) (funext fun v => ?_)
  cases Snapshot.ofValue? v <;> rfl

/-! ### Preferences -/

theorem merge_map (entries : Entries) :
    Preferences.merge (.map entries) .null = .ok (Entries.update Preferences.defaults entries) := by
  cases entries <;> rfl

/-- The settings of a note are read from its preferences over the defaults. -/
theorem settingsOf_optionsOf (a : Arguments) (preferences : Entries) (snapshot : Snapshot) :
    settingsOf (optionsOf a preferences snapshot) =
      Settings.ofPreferences (.map (Entries.update Preferences.defaults preferences)) := by
  have hmerge : Preferences.merge .null (.map preferences) =
      .ok (Entries.update Preferences.defaults preferences) := by
    cases preferences <;> rfl
  have hread : settingsOf (optionsOf a preferences snapshot) =
      (Preferences.merge .null (.map preferences) >>= fun entries =>
        Settings.ofPreferences (.map entries)) := rfl
  rw [hread, hmerge]
  rfl

theorem isDocument_fields (fields : List Field) {value : Field → Value}
    (h : ∀ field, Json.IsDocument (value field)) :
    Json.IsDocument (.record (fields.map fun field => (field.key, value field))) := by
  refine isDocument_record fun entry hentry => ?_
  obtain ⟨field, -, rfl⟩ := List.mem_map.mp hentry
  exact h field

theorem areMembers_defaults : AreMembers Preferences.defaults := by
  refine (isDocument_record ?_).areMembers
  simp [Json.IsDocument.text, Json.IsDocument.int, Json.IsDocument.bool, isDocument_texts,
    isDocument_fields]

/-- Entries of a document over the default preferences. -/
def AreMerged (preferences : Entries) : Prop :=
  ∃ entries, AreMembers entries ∧ preferences = Entries.update Preferences.defaults entries

theorem areMerged_defaults : AreMerged Preferences.defaults := ⟨[], areMembers_nil, rfl⟩

theorem AreMerged.areMembers {preferences : Entries} (h : AreMerged preferences) :
    AreMembers preferences := by
  obtain ⟨entries, hentries, rfl⟩ := h
  exact areMembers_update areMembers_defaults hentries

theorem AreMerged.isBag {preferences : Entries} (h : AreMerged preferences) :
    preferences.IsBag := by
  obtain ⟨entries, hentries, rfl⟩ := h
  exact Preferences.isBag_defaults.update fun entry hentry => (hentries entry hentry).1

/-- The kinds of faults for which preferences cannot be read. -/
def isPreferencesFault (kind : FaultKind) : Bool := kind.isValueKind || kind == .fileMissing

/-- A path where it can be seen whether there is a file, which can be read if it is there. -/
structure CanRead (expected : FaultKind → Bool) (s : Surroundings) (files : Tree) (p : Path) :
    Prop where
  seen : Expects expected (fun _ => True) (resultOver (Session.fileExists s p) files)
  text : resultOver (Session.fileExists s p) files = .ok true →
    Expects expected (fun _ => True) (resultOver (Session.readText s p) files)
  nesting : expected .recursion = true ∨ IsShallow s files p

section preferences

variable (hvalue : ∀ kind : FaultKind, kind.isValueKind = true → expected kind = true)
  (hmissing : expected .fileMissing = true)
include hvalue hmissing

theorem expects_loadPreferences (h : CanRead expected s files p) :
    Expects expected AreMerged (resultOver (loadPreferences s p) files) := by
  obtain ⟨hseen, htext, hdeep⟩ := h
  rw [loadPreferences, (Silent.fileExists s p).resultOver_bind]
  refine hseen.and_eq.bind fun isThere hisThere => ?_
  cases isThere with
  | false => exact hmissing
  | true =>
      change Expects expected AreMerged (resultOver (readJson s p >>= _) files)
      rw [(Silent.readJson s p).resultOver_bind]
      refine (expects_readJson (htext hisThere.1) hvalue hdeep).bind fun v hv => ?_
      cases v with
      | map entries =>
          dsimp only
          rw [merge_map]
          exact ⟨entries, hv.areMembers, rfl⟩
      | _ => exact hvalue .value rfl

theorem expects_loadUsualPreferences (verbose : Bool) (h : CanRead expected s files p) :
    Expects expected AreMerged (resultOver (loadUsualPreferences s verbose p) files) := by
  have hload := expects_loadPreferences hvalue hmissing h
  rw [loadUsualPreferences, (Silent.fileExists s p).resultOver_bind]
  refine h.seen.bind fun isThere _ => ?_
  cases isThere with
  | false =>
      change Expects _ _
        (resultOver (Session.log s verbose _ >>= fun _ => pure Preferences.defaults) _)
      rw [(Silent.pure _).resultOver_log_bind]
      exact areMerged_defaults
  | true =>
      change Expects _ _ (resultOver (Session.log s verbose _ >>= fun _ => loadPreferences s p) _)
      rw [(Silent.loadPreferences s p).resultOver_log_bind]
      exact hload

end preferences

/-- The preferences file of a run: that in the arguments, or else the usual one. -/
def preferencesFile? (s : Surroundings) (a : Arguments) : Option String :=
  (given? a.config).or (given? (s.valueOf? preferencesVariable))

theorem expects_choosePreferences
    (hvalue : ∀ kind : FaultKind, kind.isValueKind = true → expected kind = true)
    (hmissing : expected .fileMissing = true)
    (h : ∀ text ∈ preferencesFile? s a,
      Expects expected (CanRead expected s files) (resultOver (Session.pathOf s text) files)) :
    Expects expected AreMerged (resultOver (choosePreferences s a) files) := by
  unfold preferencesFile? at h
  unfold choosePreferences
  cases hconfig : given? a.config with
  | some text =>
      have hpath := h text (by rw [hconfig]; rfl)
      dsimp only
      rw [(Silent.pathOf s text).resultOver_bind]
      exact hpath.bind fun p hp => expects_loadPreferences hvalue hmissing hp
  | none =>
      rw [hconfig] at h
      cases hvariable : given? (s.valueOf? preferencesVariable) with
      | some text =>
          have hpath := h text hvariable
          dsimp only
          rw [(Silent.pathOf s text).resultOver_bind]
          exact hpath.bind fun p hp => expects_loadUsualPreferences hvalue hmissing a.verbose hp
      | none => exact areMerged_defaults

/-- Preferences that are read are those of a document over the defaults. -/
theorem areMerged_of_choosePreferences {preferences : Entries}
    (h : resultOver (choosePreferences s a) files = .ok preferences) : AreMerged preferences := by
  have hany : ∀ {α : Type} (result : Except Fault α) (good : α → Prop), (∀ a, good a) →
      Expects (fun _ => true) good (result.mapError .fault) :=
    fun result good hgood => expects_mapError (fun a _ => hgood a) fun _ _ => rfl
  have hmerged : Expects (fun _ => true) AreMerged (resultOver (choosePreferences s a) files) := by
    refine expects_choosePreferences (fun _ _ => rfl) rfl fun text _ => ?_
    have hcan : ∀ p, CanRead (fun _ => true) s files p := fun p => by
      refine ⟨?_, fun _ => ?_, .inl rfl⟩
      · rw [resultOver_fileExists_eq]
        exact hany _ _ fun _ => trivial
      · rw [resultOver_readText]
        exact hany _ _ fun _ => trivial
    unfold Session.pathOf
    split
    · exact hcan _
    · exact (rfl : (fun _ : FaultKind => true) .home = true)
  rw [h] at hmerged
  exact hmerged

/-- A text for a path that is known. -/
def LeadsTo (s : Surroundings) (text : String) (p : Path) : Prop :=
  (Path.ofText text).expandHome s.homeOf = some p

/-- A preferences file that is not there, or that can be read. -/
def IsThereOrNot (s : Surroundings) (files : Tree) (p : Path) : Prop :=
  files.exists? s.workingDirectory p = .ok false ∨
    files.exists? s.workingDirectory p = .ok true ∧
      ∃ content, files.read s.workingDirectory p = .ok content

theorem IsThereOrNot.canRead (h : IsThereOrNot s files p) (hshallow : IsShallow s files p) :
    CanRead isPreferencesFault s files p := by
  rcases h with hnot | ⟨hthere, content, hread⟩
  · refine ⟨?_, fun hthere => ?_, .inr hshallow⟩
    · rw [resultOver_fileExists_eq, hnot]
      exact trivial
    · rw [resultOver_fileExists_eq, hnot] at hthere
      cases hthere
  · refine ⟨?_, fun _ => ?_, .inr hshallow⟩
    · rw [resultOver_fileExists_eq, hthere]
      exact trivial
    · rw [resultOver_readText]
      refine expects_mapError (fun _ _ => trivial) fun fault h => ?_
      rcases kind_of_readText_eq_error h with h | ⟨cause, rfl⟩
      · cases hread.symm.trans h
      · rfl

/-- Where the preferences file is in order its faults are expected. -/
theorem expects_choosePreferences_of_file
    (h : ∀ text ∈ preferencesFile? s a,
      ∃ p, LeadsTo s text p ∧ IsThereOrNot s files p ∧ IsShallow s files p) :
    Expects isPreferencesFault AreMerged (resultOver (choosePreferences s a) files) := by
  refine expects_choosePreferences (fun kind hkind => ?_) rfl fun text htext => ?_
  · rw [isPreferencesFault, hkind, Bool.true_or]
  · obtain ⟨p, hpath, hfile, hshallow⟩ := h text htext
    rw [resultOver_pathOf_eq hpath]
    exact hfile.canRead hshallow

/-- The preferences in a file that the arguments name. -/
theorem resultOver_choosePreferences_of_config {name text : String} {p : Path} {entries : Entries}
    (hconfig : given? a.config = some name) (hpath : LeadsTo s name p)
    (hthere : files.exists? s.workingDirectory p = .ok true)
    (htext : files.readText s.workingDirectory p = .ok text)
    (hjson : Json.read s.standIns s.nesting text = .ok (.map entries)) :
    resultOver (choosePreferences s a) files =
      .ok (Entries.update Preferences.defaults entries) := by
  have hread : resultOver (readJson s p) files = .ok (.map entries) := by
    rw [readJson, (Silent.readText s p).resultOver_bind, resultOver_readText, htext]
    change resultOver (Session.ofResult (Json.read s.standIns s.nesting text)) files = _
    rw [hjson, resultOver_ofResult, mapError_ok]
  rw [choosePreferences, hconfig]
  dsimp only
  rw [(Silent.pathOf s name).resultOver_bind, resultOver_pathOf_eq hpath]
  change resultOver (loadPreferences s p) files = _
  rw [loadPreferences, (Silent.fileExists s p).resultOver_bind, resultOver_fileExists_eq, hthere]
  change resultOver (readJson s p >>= _) files = _
  rw [(Silent.readJson s p).resultOver_bind, hread]
  change resultOver (Session.ofResult (Preferences.merge (.map entries) .null)) files = _
  rw [merge_map, resultOver_ofResult, mapError_ok]

/-! ### Templates -/

theorem expects_readText_template (hnul : Tree.holdsNul p = false) :
    Expects isTemplateFileFault (fun _ => True) (resultOver (Session.readText s p) files) := by
  rw [resultOver_readText]
  refine expects_mapError (fun _ _ => trivial) fun fault h => ?_
  rcases kind_of_readText_eq_error h with h | ⟨cause, rfl⟩
  · rcases kind_of_read_eq_error h with ⟨hheld, -⟩ | hkind
    · rw [hnul] at hheld
      cases hheld
    · rw [isTemplateFileFault, hkind, Bool.true_or]
  · rfl

theorem expects_chooseTemplate (preferences : Entries)
    (h : ∀ text ∈ given? a.template, ∃ p, LeadsTo s text p ∧ Tree.holdsNul p = false) :
    Expects isTemplateFileFault (fun _ => True)
      (resultOver (chooseTemplate s a preferences) files) := by
  unfold chooseTemplate
  cases htemplate : given? a.template with
  | some text =>
      obtain ⟨p, hpath, hnul⟩ := h text htemplate
      dsimp only
      rw [(Silent.pathOf s text).resultOver_bind, resultOver_pathOf_eq hpath]
      change Expects _ _
        (resultOver (Session.readText s p >>= fun content => pure (Value.text content)) files)
      rw [(Silent.readText s p).resultOver_bind]
      exact (expects_readText_template hnul).bind fun _ _ => trivial
  | none => exact trivial

end TabNotes.CommandLine
