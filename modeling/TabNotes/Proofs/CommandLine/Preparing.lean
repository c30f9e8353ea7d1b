import TabNotes.Proofs.CommandLine.Inputs
import TabNotes.Proofs.CommandLine.Delivery
import TabNotes.Proofs.Note.Faults
import TabNotes.Proofs.Obsidian.NotePath
import TabNotes.Proofs.Tab.Selection

/-! # What an export prepares

`preparedOver` says what comes of the preparation of a note over a file tree.  Where the files are
in order, it stops for a fault that is not reported only because of restrictions that have no items
(`preparedOver_eq_fault_iff`), or because of a moment of the note or its tabs
(`draftOver_eq_fault_iff`). -/

namespace TabNotes.CommandLine

open TabNotes.Files TabNotes.Frontmatter TabNotes.Json TabNotes.Note TabNotes.Number TabNotes.Tab
  TabNotes.Time

variable {s : Surroundings} {a : Arguments} {source : String} {files : Tree}
  {preferences : Entries} {snapshot : Snapshot} {fault : Fault}

/-! ### Preferences that stop an export -/

/-- The values that are gone through for restrictions and have no items, with the fault. -/
inductive StopsSelection : Value → Fault → Prop where
  | bool : StopsSelection (.bool true) (.notIterable "bool")
  | int {n : Int} (h : n ≠ 0) : StopsSelection (.int n) (.notIterable "int")
  | float {x : Float} (h : (Value.float x).isTrue = true) :
      StopsSelection (.float x) (.notIterable "float")

theorem itemsIfTrue_eq_error_iff {v : Value} (hv : IsDocument v) :
    v.itemsIfTrue = .error fault ↔ StopsSelection v fault := by
  constructor
  · intro h
    unfold Value.itemsIfTrue at h
    split at h
    · rename_i htrue
      cases hv with
      | bool b =>
          cases h
          obtain rfl : b = true := htrue
          exact .bool
      | int n =>
          cases h
          exact .int (by simpa [Value.isTrue] using htrue)
      | float x =>
          cases h
          exact .float htrue
      | null => cases htrue
      | _ => cases h
    · cases h
  · intro h
    cases h with
    | bool => rfl
    | int h => exact if_pos (by simpa [Value.isTrue] using h)
    | float h => exact if_pos h

/-- The values from which no limit on links is made, with the fault. -/
inductive StopsLimit : Value → Fault → Prop where
  | nan {x : Float} (htrue : (Value.float x).isTrue = true) (h : parts x = .nan) :
      StopsLimit (.float x) .nanToInteger
  | infinite {x : Float} {negative : Bool} (htrue : (Value.float x).isTrue = true)
      (h : parts x = .infinite negative) : StopsLimit (.float x) .infinityToInteger
  | text {s : String} {fault : Fault} (hne : s ≠ "") (h : readInteger s = .error fault) :
      StopsLimit (.text s) fault
  | list {fixed : Bool} {items : List Value} (h : items ≠ []) :
      StopsLimit (.list fixed items) (.notANumber (Value.list fixed items).typeName)
  | map {entries : Entries} (h : entries ≠ []) : StopsLimit (.map entries) (.notANumber "dict")

theorem linkLimit_eq_error_iff (h : AreMembers preferences) :
    linkLimit preferences = .error fault ↔
      StopsLimit ((Value.map preferences).get "maxObsidianUriLength") fault := by
  have hv := h.isDocument.get "maxObsidianUriLength"
  rw [linkLimit]
  generalize (Value.map preferences).get "maxObsidianUriLength" = v at hv ⊢
  constructor
  · intro h
    unfold Value.orElse at h
    split at h
    · rename_i htrue
      cases hv with
      | float x =>
          rw [Value.toInteger] at h
          split at h
          · rename_i hx
            cases h
            exact .nan htrue hx
          · rename_i hx
            cases h
            exact .infinite htrue hx
          · cases h
      | text s => exact .text (by simpa [Value.isTrue] using htrue) h
      | list _ =>
          cases h
          exact .list (by simpa [Value.isTrue] using htrue)
      | map _ _ =>
          cases h
          exact .map (by simpa [Value.isTrue] using htrue)
      | null => cases htrue
      | _ => cases h
    · cases h
  · intro h
    have horElse : ∀ {w : Value}, w.isTrue = true →
        w.orElse (.int Preferences.defaultLinkLength) = w :=
      fun hw => if_pos hw
    cases h with
    | nan htrue h =>
        rw [horElse htrue, Value.toInteger, h]
    | infinite htrue h =>
        rw [horElse htrue, Value.toInteger, h]
    | text hne h =>
        rw [horElse (by simpa [Value.isTrue] using hne)]
        exact h
    | list h =>
        rw [horElse (by simpa [Value.isTrue] using h)]
        rfl
    | map h =>
        rw [horElse (by simpa [Value.isTrue] using h)]
        rfl

/-! ### Preparing -/

/-- The tabs of a snapshot that take part in an export. -/
def selectedOf (preferences : Entries) (snapshot : Snapshot) : Except Fault (List Value) :=
  Tab.selectFrom (.ofList snapshot.tabs) ((Value.map preferences).get "restrictedUrls")

/-- The draft of a note over a tree, or the way in which it stops. -/
def draftOver (s : Surroundings) (a : Arguments) (preferences : Entries) (snapshot : Snapshot)
    (tabs : List Value) (files : Tree) : Except Stop Draft := do
  let template ← (resultOver (chooseTemplate s a preferences) files).mapError
    (complaint isTemplateFileFault)
  let note ← ((Note.format s.clock tabs template
    (optionsOf a preferences snapshot)).outcome.1.mapError .fault).mapError
      (complaint FaultKind.isValueKind)
  return ⟨preferences, note⟩

theorem selectedOf_eq_error_iff (h : AreMembers preferences) :
    selectedOf preferences snapshot = .error fault ↔
      StopsSelection ((Value.map preferences).get "restrictedUrls") fault := by
  rw [← itemsIfTrue_eq_error_iff (h.isDocument.get "restrictedUrls"), selectedOf,
    selectFrom_ofList]
  cases ((Value.map preferences).get "restrictedUrls").itemsIfTrue with
  | error cause => exact Iff.rfl
  | ok entries => simp [Except.map]

theorem mem_of_selectedOf {tabs : List Value} (h : selectedOf preferences snapshot = .ok tabs) :
    ∀ tab ∈ tabs, tab ∈ snapshot.tabs := by
  rw [selectedOf, selectFrom_ofList] at h
  obtain ⟨entries, -, rfl⟩ := map_eq_ok_iff.mp h
  exact fun tab htab => List.mem_of_mem_filter htab

theorem onlyReads_makeDraft (s : Surroundings) (a : Arguments) (preferences : Entries)
    (snapshot : Snapshot) (tabs : List Value) :
    OnlyReads (makeDraft s a preferences snapshot tabs)
      (draftOver s a preferences snapshot tabs) := by
  refine ((Silent.chooseTemplate s a preferences).onlyReads.complainOf _ _).bind fun template => ?_
  exact ((onlyReads_ofReport _).complainOf _ _).bind fun note => .pure _

/-- The draft that an export prepares over a tree, or the way in which it stops. -/
def preparedOver (s : Surroundings) (a : Arguments) (source : String) (files : Tree) :
    Except Stop Draft := do
  let preferences ← (resultOver (choosePreferences s a) files).mapError
    (complaint isPreferencesFault)
  let path ← resultOver (snapshotPath s source) files
  let snapshot ← (resultOver (loadSnapshot s path) files).mapError (complaint isSnapshotFault)
  let tabs ← (selectedOf preferences snapshot).mapError .fault
  if tabs.isEmpty then .error (.status 3)
  else draftOver s a preferences snapshot tabs files

theorem onlyReads_prepare (s : Surroundings) (a : Arguments) (source : String) :
    OnlyReads (prepare s a source) (preparedOver s a source) := by
  refine ((onlyReads_choosePreferences s a).complainOf _ _).bind fun preferences => ?_
  refine (Silent.snapshotPath s source).onlyReads.bind fun path => ?_
  refine ((Silent.loadSnapshot s path).onlyReads.complainOf _ _).bind fun snapshot => ?_
  refine (onlyReads_ofResult (selectedOf preferences snapshot)).bind fun tabs => ?_
  refine (?_ : OnlyReads _ fun files => Except.ok () >>= fun _ => if tabs.isEmpty then _ else _)
  refine (OnlyReads.log _ _ _).bind fun _ => ?_
  cases tabs.isEmpty with
  | true => exact .complain (by decide) _
  | false => exact onlyReads_makeDraft s a preferences snapshot tabs

theorem exists_groupIndex {groups : Value} (h : Json.IsDocument groups) :
    ∃ index, GroupIndex.of groups = .ok index := by
  cases hindex : GroupIndex.of groups with
  | ok index => exact ⟨index, rfl⟩
  | error fault =>
      obtain ⟨⟨entry, hentry, -, -, x, negative, hkey, -⟩, -⟩ :=
        GroupIndex.of_eq_error_iff.mp hindex
      cases h with
      | map hkeys _ =>
          obtain ⟨name, hname⟩ := hkeys entry hentry
          rw [hname] at hkey
          cases hkey
      | _ => cases hentry

/-- What stops the note of tabs from a document is not the fault of a value. -/
theorem isValueKind_of_stopsNote {clock : Clock} {when : Value} {tabs : List Value}
    (htabs : ∀ tab ∈ tabs, Json.IsDocument tab) (h : StopsNote clock when tabs fault) :
    fault.kind.isValueKind = false := by
  cases h with
  | moment _ _ => rfl
  | access _ _ hstop =>
      obtain ⟨before, tab, after, rfl, hstop, -⟩ := hstop
      have hvalue := (htabs tab (by simp)).get "lastAccessed"
      generalize tab.get "lastAccessed" = v at hstop hvalue
      cases hstop with
      | tooLarge _ => rfl
      | text _ _ => rfl
      | moment _ _ => cases hvalue
      | reading _ _ => cases hvalue

theorem complaint_eq_fault_iff {isExpected : FaultKind → Bool} {stop : Stop} :
    complaint isExpected stop = .fault fault ↔
      stop = .fault fault ∧ isExpected fault.kind = false := by
  cases stop with
  | status code => simp [complaint]
  | fault cause =>
      rw [complaint]
      split
      · rename_i hkind
        constructor
        · rintro ⟨⟩
        · rintro ⟨⟨⟩, hnot⟩
          rw [hkind] at hnot
          cases hnot
      · rename_i hkind
        constructor
        · rintro ⟨⟩
          exact ⟨rfl, by simpa using hkind⟩
        · rintro ⟨⟨⟩, -⟩
          rfl

/-- A fault that is expected becomes a complaint, and any other one stays. -/
theorem mapError_complaint_eq_fault_iff {α : Type} {isExpected : FaultKind → Bool}
    {result : Except Fault α} :
    (result.mapError Stop.fault).mapError (complaint isExpected) = .error (.fault fault) ↔
      result = .error fault ∧ isExpected fault.kind = false := by
  simp only [mapError_eq_error_iff, complaint_eq_fault_iff]
  constructor
  · rintro ⟨_, ⟨cause, hcause, rfl⟩, ⟨⟩, hkind⟩
    exact ⟨hcause, hkind⟩
  · rintro ⟨hfault, hkind⟩
    exact ⟨_, ⟨fault, hfault, rfl⟩, rfl, hkind⟩

/-! ### Files in order -/

/-- A path where a text can be written, in directories that can be made. -/
def IsWritable (s : Surroundings) (files : Tree) (p : Path) : Prop :=
  ∃ made, files.makeDirectories s.workingDirectory p.parent = (.ok (), made) ∧
    ∀ content, ∃ written, made.write s.workingDirectory p content = .ok written

/-- The stamp of the note of an export. -/
def IsStampOf (s : Surroundings) (a : Arguments) (stamp : Stamp) : Prop :=
  ∃ now, resolveNow s.clock ((a.now.map Value.text).getD .null) = .ok now ∧
    Stamp.of s.clock.here now none = .ok stamp

/-- The stamp of a note that is made for an export is that of its moment. -/
theorem isStampOf_of_format {tabs : List Value} {template : Value} {note : Formatted}
    (h : (Note.format s.clock tabs template (optionsOf a preferences snapshot)).outcome.1 =
      .ok note) : IsStampOf s a note.stamp := by
  obtain ⟨context, notices, hcontext, hnote⟩ := run_bind_eq_ok_iff.mp (Prod.ext h rfl)
  obtain ⟨now, zone, stamp, settings, groups, views, frontmatter, hnow, hzone, hstamp, -, -, -, -,
    rfl⟩ := outcome_contextOf_eq_ok_iff.mp hcontext
  obtain ⟨markdown, _, -, hnote⟩ := run_bind_eq_ok_iff.mp hnote
  cases hnote
  cases hzone
  exact ⟨now, hnow, hstamp⟩

/-- The paths of a run are known, a preferences file that is there can be read, and the file of a
note can be written and its path printed.  Of what the files hold only this is said: the documents
in them have no more open brackets than can be read. -/
structure FilesInOrder (s : Surroundings) (a : Arguments) (files : Tree) : Prop where
  preferences : ∀ text ∈ preferencesFile? s a,
    ∃ p, LeadsTo s text p ∧ IsThereOrNot s files p ∧ IsShallow s files p
  source : ∀ text ∈ given? a.source, ∃ p, LeadsTo s text p ∧ Tree.holdsNul p = false ∧
    IsShallow s files (p.absolute s.workingDirectory)
  template : ∀ text ∈ given? a.template, ∃ p, LeadsTo s text p ∧ Tree.holdsNul p = false
  output : ∀ note : Formatted, IsStampOf s a note.stamp →
    ∃ p, outputOf s a note = .ok p ∧ IsWritable s files p ∧ s.output.fault? p.text = none

/-- What an export has read before it selects tabs. -/
structure HasRead (s : Surroundings) (a : Arguments) (source : String) (files : Tree)
    (preferences : Entries) (snapshot : Snapshot) : Prop where
  readPreferences : resultOver (choosePreferences s a) files = .ok preferences
  readSnapshot : ∃ path, resultOver (snapshotPath s source) files = .ok path ∧
    resultOver (loadSnapshot s path) files = .ok snapshot

/-- What an export has read when it makes the note of the selected tabs. -/
structure MakesNote (s : Surroundings) (a : Arguments) (source : String) (files : Tree)
    (preferences : Entries) (snapshot : Snapshot) (tabs : List Value) (template : Value) :
    Prop extends HasRead s a source files preferences snapshot where
  selected : selectedOf preferences snapshot = .ok tabs
  someTab : tabs ≠ []
  readTemplate : resultOver (chooseTemplate s a preferences) files = .ok template

theorem hasRead_iff {path : Path} (hpath : resultOver (snapshotPath s source) files = .ok path) :
    HasRead s a source files preferences snapshot ↔
      resultOver (choosePreferences s a) files = .ok preferences ∧
        resultOver (loadSnapshot s path) files = .ok snapshot := by
  constructor
  · rintro ⟨hchosen, path', hpath', hloaded⟩
    obtain rfl := Except.ok.inj (hpath.symm.trans hpath')
    exact ⟨hchosen, hloaded⟩
  · rintro ⟨hchosen, hloaded⟩
    exact ⟨hchosen, path, hpath, hloaded⟩

theorem resultOver_snapshotPath_eq {p : Path} (hpath : LeadsTo s source p)
    (hnul : Tree.holdsNul p = false) (files : Tree) :
    resultOver (snapshotPath s source) files = .ok (p.absolute s.workingDirectory) := by
  rw [snapshotPath, (Silent.pathOf s source).resultOver_bind, resultOver_pathOf_eq hpath]
  change resultOver (do
    if Tree.holdsNul p then throw (.fault .nulInPath)
    return p.absolute s.workingDirectory) files = _
  rw [hnul]
  rfl

/-- The path of the snapshot is known, and the snapshot is read or reported on. -/
theorem FilesInOrder.readsSnapshot (h : FilesInOrder s a files) (hsource : source ∈ given? a.source) :
    ∃ path, resultOver (snapshotPath s source) files = .ok path ∧
      Expects isSnapshotFault Snapshot.IsDocument (resultOver (loadSnapshot s path) files) := by
  obtain ⟨p, hpath, hnul, hshallow⟩ := h.source source hsource
  exact ⟨_, resultOver_snapshotPath_eq hpath hnul files, expects_loadSnapshot hshallow⟩

theorem draftOver_eq_fault_iff (hclock : s.clock.now.offset.isSome = true)
    (hfiles : FilesInOrder s a files) (hsnapshot : snapshot.IsDocument) {tabs : List Value}
    (htabs : ∀ tab ∈ tabs, tab ∈ snapshot.tabs) :
    draftOver s a preferences snapshot tabs files = .error (.fault fault) ↔
      ∃ template, resultOver (chooseTemplate s a preferences) files = .ok template ∧
        StopsNote s.clock (optionsOf a preferences snapshot).now tabs fault := by
  have hchoose := @expects_chooseTemplate s a files preferences hfiles.template
  have hsettings := settingsOf_optionsOf a preferences snapshot
  have hentries := Preferences.ofPreferences_map (Entries.update Preferences.defaults preferences)
  rw [hentries] at hsettings
  obtain ⟨index, hindex⟩ := exists_groupIndex hsnapshot.groups
  have hnow : (optionsOf a preferences snapshot).now = .null ∨
      ∃ s, (optionsOf a preferences snapshot).now = .text s := by
    unfold optionsOf
    cases a.now with
    | none => exact .inl rfl
    | some text => exact .inr ⟨text, rfl⟩
  unfold draftOver
  rw [bind_eq_error_iff, or_iff_right (hchoose.mapError_complaint_ne_fault fault)]
  refine exists_congr fun template => ?_
  rw [mapError_eq_ok_iff]
  refine and_congr_right fun _ => ?_
  rw [bind_eq_error_iff, or_iff_left (by rintro ⟨note, -, ⟨⟩⟩), mapError_complaint_eq_fault_iff]
  have hformat : fault.kind.isValueKind = false →
      ((Note.format s.clock tabs template (optionsOf a preferences snapshot)).outcome.1 =
          .error fault ↔ StopsNote s.clock (optionsOf a preferences snapshot).now tabs fault) :=
    fun hkind =>
      outcome_format_eq_error_iff hclock hnow rfl hsettings hentries hindex hkind template
  constructor
  · rintro ⟨hfault, hkind⟩
    exact (hformat hkind).mp hfault
  · intro hstop
    have hdocuments := fun tab htab => hsnapshot.tabs tab (htabs tab htab)
    have hkind := isValueKind_of_stopsNote hdocuments hstop
    exact ⟨(hformat hkind).mpr hstop, hkind⟩

theorem preparedOver_eq_fault_iff (hfiles : FilesInOrder s a files)
    (hsource : source ∈ given? a.source) :
    preparedOver s a source files = .error (.fault fault) ↔
      ∃ preferences snapshot, HasRead s a source files preferences snapshot ∧
        (StopsSelection ((Value.map preferences).get "restrictedUrls") fault ∨
          ∃ tabs, selectedOf preferences snapshot = .ok tabs ∧ tabs ≠ [] ∧
            draftOver s a preferences snapshot tabs files = .error (.fault fault)) := by
  have hpreferences := expects_choosePreferences_of_file hfiles.preferences
  obtain ⟨path, hpath, hload⟩ := hfiles.readsSnapshot hsource
  -- one stage after the other: those whose faults are all expected cannot stop with a fault
  unfold preparedOver
  rw [bind_eq_error_iff, or_iff_right (hpreferences.mapError_complaint_ne_fault fault)]
  refine exists_congr fun preferences => ?_
  rw [mapError_eq_ok_iff]
  simp only [hasRead_iff hpath, and_assoc]
  rw [exists_and_left]
  refine and_congr_right fun hchosen => ?_
  rw [hpath]
  change (Except.mapError (complaint isSnapshotFault) _ >>= _) = _ ↔ _
  rw [bind_eq_error_iff, or_iff_right (hload.mapError_complaint_ne_fault fault)]
  refine exists_congr fun snapshot => ?_
  rw [mapError_eq_ok_iff]
  refine and_congr_right fun hloaded => ?_
  have hmembers := (areMerged_of_choosePreferences hchosen).areMembers
  rw [bind_eq_error_iff, mapError_eq_error_iff]
  simp only [Stop.fault.injEq, exists_eq_right, mapError_eq_ok_iff,
    selectedOf_eq_error_iff hmembers]
  refine or_congr_right (exists_congr fun tabs => and_congr_right fun _ => ?_)
  cases tabs with
  | nil => simp
  | cons tab tabs => simp

theorem draftOver_eq_ok_iff {tabs : List Value} {draft : Draft} :
    draftOver s a preferences snapshot tabs files = .ok draft ↔
      ∃ template, resultOver (chooseTemplate s a preferences) files = .ok template ∧
        (Note.format s.clock tabs template (optionsOf a preferences snapshot)).outcome.1 =
          .ok draft.note ∧ draft.preferences = preferences := by
  unfold draftOver
  rw [bind_eq_ok_iff]
  refine exists_congr fun template => ?_
  rw [mapError_eq_ok_iff, bind_eq_ok_iff]
  refine and_congr_right fun _ => ?_
  simp only [mapError_eq_ok_iff]
  constructor
  · rintro ⟨note, hnote, ⟨⟩⟩
    exact ⟨hnote, rfl⟩
  · rintro ⟨hnote, rfl⟩
    exact ⟨draft.note, hnote, rfl⟩

theorem preparedOver_eq_ok_iff {draft : Draft} :
    preparedOver s a source files = .ok draft ↔
      ∃ snapshot tabs template,
        MakesNote s a source files draft.preferences snapshot tabs template ∧
        (Note.format s.clock tabs template (optionsOf a draft.preferences snapshot)).outcome.1 =
          .ok draft.note := by
  unfold preparedOver
  simp only [bind_eq_ok_iff, mapError_eq_ok_iff]
  constructor
  · rintro ⟨preferences, hchosen, path, hpath, snapshot, hloaded, tabs, hselected, h⟩
    split at h
    · cases h
    · rename_i hsome
      obtain ⟨template, htemplate, hnote, rfl⟩ := draftOver_eq_ok_iff.mp h
      exact ⟨snapshot, tabs, template, ⟨⟨hchosen, path, hpath, hloaded⟩, hselected,
        by simpa using hsome, htemplate⟩, hnote⟩
  · rintro ⟨snapshot, tabs, template, ⟨⟨hchosen, path, hpath, hloaded⟩, hselected, hsome,
      htemplate⟩, hnote⟩
    refine ⟨draft.preferences, hchosen, path, hpath, snapshot, hloaded, tabs, hselected, ?_⟩
    rw [if_neg (by simpa using hsome)]
    exact draftOver_eq_ok_iff.mpr ⟨template, htemplate, hnote, rfl⟩

end TabNotes.CommandLine
