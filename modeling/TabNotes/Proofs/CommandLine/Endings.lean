import TabNotes.Proofs.CommandLine.Preparing
import TabNotes.Proofs.CommandLine.UnusedPreferences
import TabNotes.Proofs.CommandLine.Validation
import TabNotes.Proofs.CommandLine.WrittenFile

/-! # How runs end

A run whose files are in order ends with one of its exit statuses, unless something stops an export
for which nothing is reported (`run_failed_iff`).  These are preferences that give no list of
restrictions, a moment of the note or its tabs that cannot be shown, and a delivery that fails
because the preferences give no limit on links or because the note, or a name in its link, holds a
surrogate.  All other preferences give way to the default ones where they are not of the kind that
is taken. -/

namespace TabNotes.CommandLine

open TabNotes.Files TabNotes.Json TabNotes.Note TabNotes.Obsidian TabNotes.Preferences TabNotes.Time

variable {s : Surroundings} {a : Arguments} {source : String} {files : Tree}
  {preferences : Entries} {snapshot : Snapshot} {fault : Fault}

/-! ### Exit statuses -/

/-- A result that is there, or one of some statuses, or a fault. -/
def StopsIn (codes : List Nat) {α : Type} (result : Except Stop α) : Prop :=
  ∀ code, result = .error (.status code) → code ∈ codes

section statuses

variable {α β : Type} {codes : List Nat}

theorem StopsIn.bind {result : Except Stop α} {next : α → Except Stop β} (h : StopsIn codes result)
    (hnext : ∀ a, StopsIn codes (next a)) : StopsIn codes (result >>= next) := by
  intro code hstop
  rcases bind_eq_error_iff.mp hstop with hstop | ⟨a, -, hstop⟩
  · exact h code hstop
  · exact hnext a code hstop

theorem stopsIn_ok (a : α) : StopsIn codes (.ok a) := by
  rintro _ ⟨⟩

theorem stopsIn_mapError_fault (result : Except Fault α) :
    StopsIn codes (result.mapError .fault) := by
  cases result with
  | ok a => exact stopsIn_ok a
  | error cause => rintro _ ⟨⟩

theorem StopsIn.mapError_complaint {result : Except Stop α} (h : StopsIn codes result)
    (htwo : 2 ∈ codes) (isExpected : FaultKind → Bool) :
    StopsIn codes (result.mapError (complaint isExpected)) := by
  intro code hstop
  obtain ⟨stop, rfl, hcomplaint⟩ := mapError_eq_error_iff.mp hstop
  cases stop with
  | status other =>
      cases hcomplaint
      exact h code rfl
  | fault cause =>
      rw [complaint] at hcomplaint
      split at hcomplaint
      · cases hcomplaint
        exact htwo
      · cases hcomplaint

theorem Expects.stopsIn {expected : FaultKind → Bool} {good : α → Prop} {result : Except Stop α}
    (h : Expects expected good result) : StopsIn codes result := by
  rintro code rfl
  exact absurd h id

end statuses

theorem stopsIn_draftOver (hfiles : FilesInOrder s a files) (preferences : Entries)
    (snapshot : Snapshot) (tabs : List Value) :
    StopsIn [2, 3] (draftOver s a preferences snapshot tabs files) := by
  refine ((expects_chooseTemplate preferences hfiles.template).stopsIn.mapError_complaint (by simp)
    _).bind fun template => ?_
  exact ((stopsIn_mapError_fault _).mapError_complaint (by simp) _).bind fun note => stopsIn_ok _

/-- An export that does not come to its note ends with status 2 or, if no tab is selected, 3. -/
theorem stopsIn_preparedOver (hfiles : FilesInOrder s a files)
    (hsource : source ∈ given? a.source) : StopsIn [2, 3] (preparedOver s a source files) := by
  have hpreferences := expects_choosePreferences_of_file hfiles.preferences
  obtain ⟨path, hpath, hload⟩ := hfiles.readsSnapshot hsource
  unfold preparedOver
  rw [hpath]
  refine (hpreferences.stopsIn.mapError_complaint (by simp) _).bind fun preferences => ?_
  change StopsIn _ (Except.mapError (complaint isSnapshotFault) _ >>= _)
  refine (hload.stopsIn.mapError_complaint (by simp) _).bind fun snapshot => ?_
  refine (stopsIn_mapError_fault _).bind fun tabs => ?_
  split
  · rintro _ ⟨⟩
    simp
  · exact stopsIn_draftOver hfiles preferences snapshot tabs

/-! ### What stops an export -/

/-- An export that wants a link for its note and has a place for it. -/
structure WantsLink (a : Arguments) (preferences : Entries) (place : Place) : Prop where
  obsidian : a.obsidian = true
  place_eq : Place.ofPreferences (.map preferences) = .ok place
  usable : place.isUsable = true

/-- What stops the delivery of a note. -/
inductive StopsDelivery (s : Surroundings) (a : Arguments) (draft : Draft) : Fault → Prop where
  /-- The preferences give no limit on the link. -/
  | limit {place : Place} {fault : Fault} (hwants : WantsLink a draft.preferences place)
      (h : StopsLimit ((Value.map draft.preferences).get "maxObsidianUriLength") fault) :
      StopsDelivery s a draft fault
  /-- The link would hold a surrogate. -/
  | link {place : Place} {limit : Int} {fault : Fault}
      (hwants : WantsLink a draft.preferences place)
      (hlimit : linkLimit draft.preferences = .ok limit)
      (h : s.standIns.check ((requestFor place draft.note).parameters.map Prod.snd) =
        .error fault) : StopsDelivery s a draft fault
  /-- The file would hold a surrogate. -/
  | file {fault : Fault} (hwants : ∀ place, ¬ WantsLink a draft.preferences place)
      (h : s.standIns.fault? draft.note.markdown = some fault) : StopsDelivery s a draft fault

/-- What stops an export without a report. -/
inductive StopsExport (s : Surroundings) (a : Arguments) (source : String) (files : Tree) :
    Fault → Prop where
  /-- The preferences give no list of restrictions. -/
  | selection {preferences : Entries} {snapshot : Snapshot} {fault : Fault}
      (hread : HasRead s a source files preferences snapshot)
      (h : StopsSelection ((Value.map preferences).get "restrictedUrls") fault) :
      StopsExport s a source files fault
  /-- The moment of the note or the times of its tabs cannot be shown. -/
  | note {preferences : Entries} {snapshot : Snapshot} {tabs : List Value} {template : Value}
      {fault : Fault} (hmakes : MakesNote s a source files preferences snapshot tabs template)
      (h : StopsNote s.clock (optionsOf a preferences snapshot).now tabs fault) :
      StopsExport s a source files fault
  /-- The note cannot be delivered. -/
  | delivery {preferences : Entries} {snapshot : Snapshot} {tabs : List Value} {template : Value}
      {note : Formatted} {fault : Fault}
      (hmakes : MakesNote s a source files preferences snapshot tabs template)
      (hnote : (Note.format s.clock tabs template
        (optionsOf a preferences snapshot)).outcome.1 = .ok note)
      (h : StopsDelivery s a ⟨preferences, note⟩ fault) : StopsExport s a source files fault

/-! ### Delivering -/

section delivery

variable {draft : Draft} {place : Place}

theorem wantedLink_of_wantsLink (h : WantsLink a draft.preferences place) :
    wantedLink s a place draft = linkFor s place draft := if_pos h.obsidian

theorem wantedLink_of_not_wantsLink
    (hplace : Place.ofPreferences (.map draft.preferences) = .ok place)
    (h : ¬ WantsLink a draft.preferences place) : wantedLink s a place draft = .ok none := by
  unfold wantedLink
  split
  · rename_i hobsidian
    refine linkFor_of_not_isUsable (Bool.eq_false_iff.mpr fun husable => ?_)
    exact h ⟨hobsidian, hplace, husable⟩
  · rfl

/-- A note whose file is in order is written unless it holds a surrogate. -/
theorem fileNote_eq_error_iff
    (houtput : ∃ p, outputOf s a draft.note = .ok p ∧ IsWritable s files p ∧
      s.output.fault? p.text = none) :
    (fileNote s a draft.note files).1 = .error fault ↔
      s.standIns.fault? draft.note.markdown = some fault := by
  obtain ⟨p, hpath, ⟨made, hmade, hwrite⟩, hprints⟩ := houtput
  obtain ⟨written, hwritten⟩ := hwrite (contentFor s draft.note.markdown)
  have hfile : fileNote s a draft.note files = (shownPath s draft.note p, written) := by
    rw [fileNote, hpath]
    dsimp only
    rw [hmade]
    dsimp only
    rw [hwritten]
  rw [hfile, shownPath, Surroundings.encode, hprints]
  cases s.standIns.fault? draft.note.markdown <;> simp [bind, Except.bind]

theorem linkFor_eq_error_iff (hpreferences : AreMembers draft.preferences)
    (husable : place.isUsable = true) :
    linkFor s place draft = .error fault ↔
      StopsLimit ((Value.map draft.preferences).get "maxObsidianUriLength") fault ∨
        ∃ limit, linkLimit draft.preferences = .ok limit ∧
          s.standIns.check ((requestFor place draft.note).parameters.map Prod.snd) =
            .error fault := by
  rw [← linkLimit_eq_error_iff hpreferences]
  cases hlimit : linkLimit draft.preferences with
  | error cause => simp [linkFor_of_error husable hlimit]
  | ok limit =>
      rw [linkFor_of_limit husable hlimit, map_eq_error_iff]
      simp only [reduceCtorEq, false_or, Except.ok.injEq, exists_eq_left']

/-- A link that can be made holds no surrogate, so a note in place of which it stands neither. -/
theorem fault?_of_linkFor_eq_ok {link : Option String} (husable : place.isUsable = true)
    (h : linkFor s place draft = .ok link) : s.standIns.fault? draft.note.markdown = none := by
  cases hlimit : linkLimit draft.preferences with
  | error cause =>
      rw [linkFor_of_error husable hlimit] at h
      cases h
  | ok limit =>
      rw [linkFor_of_limit husable hlimit] at h
      obtain ⟨_, hcheck, -⟩ := map_eq_ok_iff.mp h
      exact Text.StandIns.check_eq_ok_iff.mp hcheck _ (by simp [Request.parameters, requestFor])

/-- The delivery of a note whose file is in order fails where something stops it. -/
theorem delivery_eq_error_iff (hpreferences : AreMembers draft.preferences)
    (hplace : Place.ofPreferences (.map draft.preferences) = .ok place)
    (houtput : ∃ p, outputOf s a draft.note = .ok p ∧ IsWritable s files p ∧
      s.output.fault? p.text = none) :
    (delivery s a place draft files).1 = .error fault ↔ StopsDelivery s a draft fault := by
  have hfile := @fileNote_eq_error_iff s a files fault draft houtput
  have hplaces : ∀ other, WantsLink a draft.preferences other → other = place := fun other h =>
    Except.ok.inj (h.place_eq.symm.trans hplace)
  unfold delivery
  by_cases hwants : WantsLink a draft.preferences place
  · have hlink := @linkFor_eq_error_iff s fault draft place hpreferences hwants.usable
    have hstops : StopsDelivery s a draft fault ↔ linkFor s place draft = .error fault := by
      rw [hlink]
      constructor
      · rintro (⟨-, hlimit⟩ | ⟨hother, hlimit, hcheck⟩ | ⟨hnone, -⟩)
        · exact .inl hlimit
        · obtain rfl := hplaces _ hother
          exact .inr ⟨_, hlimit, hcheck⟩
        · exact absurd hwants (hnone place)
      · rintro (hlimit | ⟨limit, hlimit, hcheck⟩)
        · exact .limit hwants hlimit
        · exact .link hwants hlimit hcheck
    rw [hstops, wantedLink_of_wantsLink hwants]
    cases hresult : linkFor s place draft with
    | error cause => simp
    | ok link =>
        have hplain := fault?_of_linkFor_eq_ok hwants.usable hresult
        cases link with
        | some link => simp
        | none => simp [map_eq_error_iff, hfile, hplain]
  · have hnone : ∀ other, ¬ WantsLink a draft.preferences other := fun other h =>
      hwants (hplaces other h ▸ h)
    rw [wantedLink_of_not_wantsLink hplace hwants]
    simp only [map_eq_error_iff, hfile]
    constructor
    · exact .file hnone
    · rintro (⟨hother, -⟩ | ⟨hother, -, -⟩ | ⟨-, h⟩)
      · exact absurd hother (hnone _)
      · exact absurd hother (hnone _)
      · exact h

end delivery

/-! ### Exports -/

theorem isDocument_of_hasRead (h : HasRead s a source files preferences snapshot) :
    AreMembers preferences ∧ snapshot.IsDocument := by
  obtain ⟨path, -, hloaded⟩ := h.readSnapshot
  exact ⟨(areMerged_of_choosePreferences h.readPreferences).areMembers,
    isDocument_of_loadSnapshot hloaded⟩

/-- An export that has its draft ends with status 0 unless the delivery is stopped. -/
theorem result_runExport_of_draft (hfiles : FilesInOrder s a files) {draft : Draft}
    (hdraft : preparedOver s a source files = .ok draft) :
    (∀ fault, ((runExport s a source).run.run ⟨[], [], files⟩).1 = .error (.fault fault) ↔
        StopsDelivery s a draft fault) ∧
      ∀ code, Ending.ofSession ((runExport s a source).run.run ⟨[], [], files⟩).1 = .status code →
        code = 0 := by
  obtain ⟨lines, hprepare⟩ := (onlyReads_prepare s a source).run ⟨[], [], files⟩
  rw [hdraft] at hprepare
  obtain ⟨snapshot, tabs, template, hmakes, hnote⟩ := preparedOver_eq_ok_iff.mp hdraft
  have hmembers := (isDocument_of_hasRead hmakes.toHasRead).1
  have houtput := hfiles.output draft.note (isStampOf_of_format hnote)
  obtain ⟨place, hplace, -⟩ := exists_place draft.preferences
  obtain ⟨shown, hrun⟩ := run_runExport hprepare hplace
  simp only [← delivery_eq_error_iff hmembers hplace houtput, hrun]
  rcases delivery s a place draft files with ⟨cause | line, left⟩
  · exact ⟨fun fault => by simp, fun code hcode => by cases hcode⟩
  · refine ⟨fun fault => by simp, fun code hcode => ?_⟩
    cases hcode
    rfl

section exports

variable (hclock : s.clock.now.offset.isSome = true) (hfiles : FilesInOrder s a files)
  (hsource : source ∈ given? a.source)
include hclock hfiles hsource

/-- What stops an export stops it before it has a draft or when it delivers the draft. -/
theorem stopsExport_iff :
    StopsExport s a source files fault ↔
      preparedOver s a source files = .error (.fault fault) ∨
        ∃ draft, preparedOver s a source files = .ok draft ∧
          StopsDelivery s a draft fault := by
  rw [preparedOver_eq_fault_iff hfiles hsource]
  constructor
  · rintro (⟨hread, h⟩ | ⟨hmakes, h⟩ | ⟨hmakes, hnote, h⟩)
    · exact .inl ⟨_, _, hread, .inl h⟩
    · refine .inl ⟨_, _, hmakes.toHasRead, .inr ⟨_, hmakes.selected, hmakes.someTab, ?_⟩⟩
      have hsnapshot := (isDocument_of_hasRead hmakes.toHasRead).2
      exact (draftOver_eq_fault_iff hclock hfiles hsnapshot (mem_of_selectedOf hmakes.selected)).mpr
        ⟨_, hmakes.readTemplate, h⟩
    · exact .inr ⟨⟨_, _⟩, preparedOver_eq_ok_iff.mpr ⟨_, _, _, hmakes, hnote⟩, h⟩
  · rintro (⟨preferences, snapshot, hread, h | ⟨tabs, hselected, hsome, h⟩⟩ | ⟨draft, hdraft, h⟩)
    · exact .selection hread h
    · have hsnapshot := (isDocument_of_hasRead hread).2
      obtain ⟨template, htemplate, hstop⟩ :=
        (draftOver_eq_fault_iff hclock hfiles hsnapshot (mem_of_selectedOf hselected)).mp h
      exact .note ⟨hread, hselected, hsome, htemplate⟩ hstop
    · obtain ⟨snapshot, tabs, template, hmakes, hnote⟩ := preparedOver_eq_ok_iff.mp hdraft
      exact .delivery hmakes hnote h

/-- An export ends with a fault where something stops it, and with status 0, 2 or 3 otherwise. -/
theorem result_runExport :
    (∀ fault, ((runExport s a source).run.run ⟨[], [], files⟩).1 = .error (.fault fault) ↔
        StopsExport s a source files fault) ∧
      ∀ code, Ending.ofSession ((runExport s a source).run.run ⟨[], [], files⟩).1 = .status code →
        code ∈ [0, 2, 3] := by
  simp only [stopsExport_iff hclock hfiles hsource]
  -- nothing is written before there is a draft, and after that only the delivery can fail
  cases hprepared : preparedOver s a source files with
  | error stop =>
      obtain ⟨lines, hprepare⟩ := (onlyReads_prepare s a source).run ⟨[], [], files⟩
      rw [hprepared] at hprepare
      rw [run_runExport_error hprepare]
      refine ⟨fun fault => by simp, fun code hcode => ?_⟩
      cases stop with
      | fault cause => cases hcode
      | status other =>
          cases hcode
          exact List.mem_cons_of_mem 0 (stopsIn_preparedOver hfiles hsource code hprepared)
  | ok draft =>
      obtain ⟨hfault, hstatus⟩ := result_runExport_of_draft hfiles hprepared
      refine ⟨fun fault => by simp [hfault], fun code hcode => ?_⟩
      rw [hstatus code hcode]
      exact List.mem_cons_self

end exports

/-! ### Runs -/

/-- What stops a run without a report. -/
def StopsRun (s : Surroundings) (a : Arguments) (files : Tree) (fault : Fault) : Prop :=
  a.command = some "export" ∧ ∃ source ∈ given? a.source, StopsExport s a source files fault

/-- A review ends with status 0, 2 or 4. -/
theorem result_runValidate {p : Path} (hpath : LeadsTo s source p)
    (hnul : Tree.holdsNul p = false) :
    ∃ code ∈ [0, 2, 4],
      Ending.ofSession ((runValidate s source).run.run ⟨[], [], files⟩).1 = .status code := by
  cases hread : files.readText s.workingDirectory p with
  | ok template =>
      rw [@run_runValidate s template source p ⟨[], [], files⟩ hpath hread]
      refine ⟨_, ?_, rfl⟩
      split
      · simp
      · simp
  | error fault =>
      have hsilent := (Silent.pathOf s source).bind fun p => .readText s p
      have htext : resultOver (Session.pathOf s source >>= Session.readText s) files =
          .error (.fault fault) := by
        rw [(Silent.pathOf s source).resultOver_bind, resultOver_pathOf_eq hpath]
        change resultOver (Session.readText s p) files = _
        rw [resultOver_readText, hread, mapError_error]
      have hexpects := @expects_readText_template s files p hnul
      rw [resultOver_readText, hread] at hexpects
      have hkind : isTemplateFileFault fault.kind = true := hexpects
      obtain ⟨lines, hrun⟩ := (hsilent.onlyReads.complainOf isTemplateFileFault
        unreadableTemplate).run ⟨[], [], files⟩
      rw [htext, mapError_error, complaint, if_pos hkind] at hrun
      refine ⟨2, by simp, ?_⟩
      unfold runValidate
      rw [run_bind, hrun]
      rfl

/-- A command is an export, or it is a review or no command at all, and nothing stops it. -/
theorem runCommand_cases (s : Surroundings) (a : Arguments) :
    (∃ source ∈ given? a.source,
        a.command = some "export" ∧ runCommand s a = runExport s a source) ∨
      (∀ files fault, ¬ StopsRun s a files fault) ∧
        ((∃ source ∈ given? a.source, runCommand s a = runValidate s source) ∨
          runCommand s a = Session.complain 2 usage) := by
  unfold runCommand
  split
  · rename_i source hcommand hsource
    exact .inl ⟨source, hsource, hcommand, rfl⟩
  · rename_i source hcommand hsource
    refine .inr ⟨?_, .inl ⟨source, hsource, rfl⟩⟩
    rintro files fault ⟨hexport, -⟩
    exact absurd (hcommand.symm.trans hexport) (by simp)
  · rename_i hother _
    refine .inr ⟨?_, .inr rfl⟩
    rintro files fault ⟨hexport, source, hsource, -⟩
    exact hother source hexport hsource

theorem stopsRun_iff (hcommand : a.command = some "export") (hsource : source ∈ given? a.source) :
    StopsRun s a files fault ↔ StopsExport s a source files fault := by
  constructor
  · rintro ⟨-, other, hother, h⟩
    obtain rfl := Option.some.inj (hsource.symm.trans hother)
    exact h
  · exact fun h => ⟨hcommand, source, hsource, h⟩

theorem ofSession_eq_failed_iff {result : Except Stop Nat} :
    Ending.ofSession result = .failed fault ↔ result = .error (.fault fault) := by
  rcases result with (_ | _) | _ <;> simp [Ending.ofSession]

theorem exists_status {result : Except Stop Nat} (h : ∀ fault, result ≠ .error (.fault fault)) :
    ∃ code, Ending.ofSession result = .status code := by
  rcases result with (code | fault) | code
  · exact ⟨code, rfl⟩
  · exact absurd rfl (h fault)
  · exact ⟨code, rfl⟩

theorem ending_of_accepted {arguments : List String} (hread : readArguments s arguments = .ok a) :
    (run s arguments files).1 = .ofSession ((runCommand s a).run.run ⟨[], [], files⟩).1 := by
  rw [run, hread]
  rfl

/-- A run whose files are in order fails where something stops it, and ends with one of its exit
statuses otherwise. -/
theorem endings_of_accepted {arguments : List String} (hread : readArguments s arguments = .ok a)
    (hclock : s.clock.now.offset.isSome = true) (hfiles : FilesInOrder s a files) :
    (∀ fault, (run s arguments files).1 = .failed fault ↔ StopsRun s a files fault) ∧
      ((¬ ∃ fault, StopsRun s a files fault) →
        ∃ code ∈ [0, 2, 3, 4], (run s arguments files).1 = .status code) := by
  rw [ending_of_accepted hread]
  rcases runCommand_cases s a with ⟨source, hsource, hexport, hcommand⟩ | ⟨hnone, hcommand⟩
  · obtain ⟨hfault, hcode⟩ := result_runExport hclock hfiles hsource
    simp only [ofSession_eq_failed_iff, stopsRun_iff hexport hsource, ← hfault, hcommand]
    refine ⟨fun _ => trivial, fun hnone => ?_⟩
    obtain ⟨code, hstatus⟩ := exists_status (not_exists.mp hnone)
    have hcodes : ∀ code ∈ [0, 2, 3], code ∈ [0, 2, 3, 4] := by simp
    exact ⟨code, hcodes code (hcode code hstatus), hstatus⟩
  · have hstatus : ∃ code ∈ [0, 2, 4],
        Ending.ofSession ((runCommand s a).run.run ⟨[], [], files⟩).1 = .status code := by
      rcases hcommand with ⟨source, hsource, hcommand⟩ | hcommand
      · rw [hcommand]
        obtain ⟨p, hpath, hnul, -⟩ := hfiles.source source hsource
        exact result_runValidate hpath hnul
      · rw [hcommand]
        exact ⟨2, by simp, rfl⟩
    obtain ⟨code, hcode, hstatus⟩ := hstatus
    have hcodes : ∀ code ∈ [0, 2, 4], code ∈ [0, 2, 3, 4] := by simp
    rw [hstatus]
    exact ⟨fun fault => by simp [hnone], fun _ => ⟨code, hcodes code hcode, rfl⟩⟩

def oneTab : String := "[\x7b\"url\": \"https://a.org/\"\x7d]"

/-- A home directory with a snapshot and with preferences. -/
def configured (config : String) : Tree :=
  ⟨[(["home"], .directory), (["home", "tabs.json"], .file (Tree.bytesOf oneTab)),
    (["home", "config.json"], .file (Tree.bytesOf config))]⟩

def configuredArguments : Arguments :=
  ⟨["export", "tabs.json"], some "config.json", none, some "note.md", none, false, false⟩

/-- The only entry of a map that is a number, if the map has entries. -/
def numberIn? : Except Fault Value → Option (Option (String × Int))
  | .ok (.map []) => some none
  | .ok (.map [(.text name, .int n)]) => some (some (name, n))
  | _ => none

theorem eq_of_numberIn? {result : Except Fault Value} {entry : Option (String × Int)}
    (h : numberIn? result = some entry) :
    result = .ok (.map (entry.toList.map fun entry => (.text entry.1, .int entry.2))) := by
  unfold numberIn? at h
  split at h
  · cases h
    rfl
  · cases h
    rfl
  · cases h

/-- A text of preferences that hold a number, or nothing. -/
structure HoldsEntry (config : String) (entry : Option (String × Int)) : Prop where
  text : (configured config).readText ["home"] ⟨.here, ["config.json"]⟩ = .ok config
  entry : numberIn? (Json.read atHome.standIns atHome.nesting config) = some entry

section configured

variable {config : String} {entry : Option (String × Int)}

theorem resultOver_choosePreferences_configured (h : HoldsEntry config entry) :
    resultOver (choosePreferences atHome configuredArguments) (configured config) =
      .ok (Entries.update Preferences.defaults
        (entry.toList.map fun entry => (.text entry.1, .int entry.2))) :=
  resultOver_choosePreferences_of_config rfl (p := ⟨.here, ["config.json"]⟩) rfl rfl h.text
    (eq_of_numberIn? h.entry)

theorem isShallow_oneTab (config : String) :
    IsShallow atHome (configured config) ⟨.root, ["home", "tabs.json"]⟩ := by
  have hsame : (configured config).readText ["home"] ⟨.root, ["home", "tabs.json"]⟩ =
      (configured "").readText ["home"] ⟨.root, ["home", "tabs.json"]⟩ := rfl
  have htext : (configured "").readText ["home"] ⟨.root, ["home", "tabs.json"]⟩ = .ok oneTab := by
    decide +kernel
  have hread : (Json.read atHome.standIns atHome.nesting oneTab).toBool = true := by
    decide +kernel
  cases hresult : Json.read atHome.standIns atHome.nesting oneTab with
  | ok v => exact isShallow_of_readText (hsame.trans htext) hresult
  | error cause =>
      rw [hresult] at hread
      cases hread

theorem filesInOrder_configured (h : HoldsEntry config entry) :
    FilesInOrder atHome configuredArguments (configured config) := by
  refine ⟨?_, ?_, ?_, fun note _ => ?_⟩
  · rintro text ⟨⟩
    exact ⟨⟨.here, ["config.json"]⟩, rfl, .inr ⟨rfl, _, rfl⟩,
      isShallow_of_readText h.text (eq_of_numberIn? h.entry)⟩
  · rintro text ⟨⟩
    exact ⟨⟨.here, ["tabs.json"]⟩, rfl, rfl, isShallow_oneTab config⟩
  · rintro text ⟨⟩
  · exact ⟨⟨.here, ["note.md"]⟩, rfl, ⟨_, rfl, fun content => ⟨_, rfl⟩⟩, rfl⟩

end configured

/-- A number in place of a list of restrictions. -/
def badRestrictions : String := "\x7b\"restrictedUrls\": 5\x7d"

/-- A number in place of a template. -/
def badFormat : String := "\x7b\"markdownFormat\": 5\x7d"

theorem sameUse_badFormat :
    SameUse (Entries.update Preferences.defaults [(.text "markdownFormat", .int 5)])
      (Entries.update Preferences.defaults []) :=
  ⟨.inl rfl, .inl rfl, .inr ⟨rfl, rfl⟩, .inl rfl, .inl rfl, .inl rfl, .inl rfl, .inl rfl,
    fun _ => .inl rfl, fun _ => .inl rfl⟩

theorem snapshot_configured_congr (config config' : String) :
    resultOver (loadSnapshot atHome ⟨.root, ["home", "tabs.json"]⟩) (configured config) =
      resultOver (loadSnapshot atHome ⟨.root, ["home", "tabs.json"]⟩) (configured config') :=
  resultOver_loadSnapshot_congr rfl

theorem exists_snapshot_configured (config : String) :
    ∃ snapshot, resultOver (loadSnapshot atHome ⟨.root, ["home", "tabs.json"]⟩)
      (configured config) = .ok snapshot := by
  have hread : (resultOver (loadSnapshot atHome ⟨.root, ["home", "tabs.json"]⟩)
      (configured "")).toBool = true := by
    decide +kernel
  rw [snapshot_configured_congr config ""]
  cases hresult : resultOver (loadSnapshot atHome ⟨.root, ["home", "tabs.json"]⟩)
      (configured "") with
  | ok snapshot => exact ⟨snapshot, rfl⟩
  | error stop =>
      rw [hresult] at hread
      cases hread

theorem agreeBut_configured (config config' : String) :
    (configured config).AgreeBut ["home", "config.json"] (configured config') := by
  intro m
  by_cases hm : m = ["home", "config.json"]
  · subst hm
    exact .inr ⟨rfl, ⟨_, rfl⟩, _, rfl⟩
  · refine .inl ?_
    simp [Tree.node?, configured, List.lookup_cons, beq_eq_false_iff_ne.mpr hm]

end TabNotes.CommandLine
