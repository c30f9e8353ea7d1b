import TabNotes.Proofs.CommandLine.Alike
import TabNotes.Proofs.CommandLine.Delivery
import TabNotes.Proofs.Tab.Selection

/-! # Tabs that an export leaves out

An export does not tell anything about the tabs that it leaves out in any case, but for how many of
them are highlighted.  Two runs over snapshots that differ in such tabs alone print the same, report
the same and write the same (`run_congr_of_excluded`). -/

namespace TabNotes.CommandLine

open TabNotes.Files TabNotes.Time TabNotes.Note

variable {s : Surroundings} {now : Moment} {logTime source : String} {a : Arguments}
  {files files' : Tree} {l : Location}

/-! ### Results over two trees -/

/-- A text leads to the same path whatever the tree. -/
theorem resultOver_pathOf (s : Surroundings) (text : String) (files files' : Tree) :
    resultOver (Session.pathOf s text) files = resultOver (Session.pathOf s text) files' := by
  unfold Session.pathOf
  cases (Path.ofText text).expandHome s.homeOf <;> rfl

theorem resultOver_snapshotPath (s : Surroundings) (text : String) (files files' : Tree) :
    resultOver (snapshotPath s text) files = resultOver (snapshotPath s text) files' := by
  unfold snapshotPath
  rw [(Silent.pathOf s text).resultOver_bind, (Silent.pathOf s text).resultOver_bind,
    resultOver_pathOf s text files files']
  refine congrArg (_ >>= ·) (funext fun p => ?_)
  cases Tree.holdsNul p <;> rfl

theorem resultOver_fileExists (h : files.AgreeBut l files') (s : Surroundings) (p : Path) :
    resultOver (Session.fileExists s p) files = resultOver (Session.fileExists s p) files' := by
  have hrun : ∀ files, resultOver (Session.fileExists s p) files =
      resultOver (Session.ofResult (files.exists? s.workingDirectory p)) files := fun _ => rfl
  rw [hrun, hrun, h.exists?]
  cases files'.exists? s.workingDirectory p <;> rfl

/-! ### What two exports may differ in -/

/-- Two snapshots of the same window that differ at most in tabs that are left out. -/
structure Snapshot.SameButExcluded (restrictions : List String) (snapshot snapshot' : Snapshot) :
    Prop where
  window : snapshot.window = snapshot'.window
  groups : snapshot.groups = snapshot'.groups
  tabs : List.Forall₂ (Tab.SameChoice restrictions) snapshot.tabs snapshot'.tabs

/-- Two trees with the same preferences and the same template for an export, and with two snapshots
that differ at most in tabs that are left out. -/
structure SameButExcluded (s : Surroundings) (a : Arguments) (source : String)
    (files files' : Tree) : Prop where
  place : ∃ l, files.AgreeBut l files'
  preferences : resultOver (choosePreferences s a) files = resultOver (choosePreferences s a) files'
  template : ∀ preferences, resultOver (chooseTemplate s a preferences) files =
    resultOver (chooseTemplate s a preferences) files'
  snapshots : ∃ path snapshot snapshot', resultOver (snapshotPath s source) files = .ok path ∧
    resultOver (loadSnapshot s path) files = .ok snapshot ∧
    resultOver (loadSnapshot s path) files' = .ok snapshot' ∧
    ∀ preferences restrictions, resultOver (choosePreferences s a) files = .ok preferences →
      Tab.usableRestrictionsOf ((Value.map preferences).get "restrictedUrls") = .ok restrictions →
      snapshot.SameButExcluded restrictions snapshot'

/-- Two runs that end the same, print the same lines, report the same lines but for the time in lines
of progress, and make the same changes to their trees. -/
structure SameRun (time time' : String) (files files' : Tree) (plain other : Ending × Traces) :
    Prop where
  ending : plain.1 = other.1
  printed : plain.2.printed = other.2.printed
  reported : List.Forall₂ (SameLine time time') plain.2.reported other.2.reported
  changes : ∃ changes, plain.2.files = files.putAll changes ∧ other.2.files = files'.putAll changes

/-! ### Preparing -/

theorem alike_loadUsualPreferences (hplace : files.AgreeBut l files') {verbose : Bool} {p : Path}
    (h : resultOver (loadUsualPreferences s verbose p) files =
      resultOver (loadUsualPreferences (s.atMoment now logTime) verbose p) files') :
    Alike s.logTime logTime (These files files') (loadUsualPreferences s verbose p)
      (loadUsualPreferences (s.atMoment now logTime) verbose p)
      (Known (loadUsualPreferences s verbose p) files files') := by
  refine .known_bind (.fileExists s p) (.fileExists s p) (resultOver_fileExists hplace s p) h ?_
  intro isThere h
  cases isThere with
  | false => exact .known_log (.pure _) (.pure _) s (s.atMoment now logTime) verbose _ h
  | true =>
      have hload := Silent.loadPreferences s p
      exact .known_log hload hload s (s.atMoment now logTime) verbose _ h

theorem alike_choosePreferences (hplace : files.AgreeBut l files')
    (h : resultOver (choosePreferences s a) files =
      resultOver (choosePreferences (s.atMoment now logTime) a) files') :
    Alike s.logTime logTime (These files files') (choosePreferences s a)
      (choosePreferences (s.atMoment now logTime) a)
      (Known (choosePreferences s a) files files') := by
  have hvariable : (s.atMoment now logTime).valueOf? preferencesVariable =
      s.valueOf? preferencesVariable := rfl
  revert h
  unfold choosePreferences
  rw [hvariable]
  cases given? a.config with
  | some text =>
      have hload := (Silent.pathOf s text).bind fun p => .loadPreferences s p
      exact fun h => .known hload hload h
  | none =>
      cases given? (s.valueOf? preferencesVariable) with
      | none => exact fun h => .known (.pure _) (.pure _) h
      | some text =>
          intro h
          refine .known_bind (.pathOf s text) (.pathOf s text) (resultOver_pathOf s text _ _) h ?_
          exact fun p h => alike_loadUsualPreferences hplace h

theorem alike_makeDraft (hnow : a.now ≠ none) {preferences : Entries}
    (htemplate : resultOver (chooseTemplate s a preferences) files =
      resultOver (chooseTemplate s a preferences) files')
    {snapshot snapshot' : Snapshot} (hwindow : snapshot.window = snapshot'.window)
    (hgroups : snapshot.groups = snapshot'.groups) (tabs : List Value) :
    Alike s.logTime logTime (These files files') (makeDraft s a preferences snapshot tabs)
      (makeDraft (s.atMoment now logTime) a preferences snapshot' tabs)
      (Equally (These files files')) := by
  have hoptions : optionsOf a preferences snapshot' = optionsOf a preferences snapshot := by
    rw [optionsOf, optionsOf, hwindow, hgroups]
  have hmoment := optionsOf_now_ne_null hnow preferences snapshot
  unfold makeDraft
  rw [hoptions]
  refine (Alike.complainOf (.of_resultOver (.chooseTemplate s a preferences)
    (.chooseTemplate s a preferences) ?_) _ _).bind_equally fun template => ?_
  · rintro _ _ ⟨rfl, rfl⟩
    exact htemplate
  · rw [@format_congr s.clock.now s.clock.here now _ _ _ hmoment]
    exact ((Alike.ofReport _).complainOf _ _).bind_equally fun note => .pure _

/-- The tabs that are left out do not count for the note. -/
theorem alike_prepare (hnow : a.now ≠ none) (h : SameButExcluded s a source files files') :
    Alike s.logTime logTime (These files files') (prepare s a source)
      (prepare (s.atMoment now logTime) a source) (Equally (These files files')) := by
  obtain ⟨l, hplace⟩ := h.place
  obtain ⟨path, snapshot, snapshot', hpath, hsnapshot, hsnapshot', hsame⟩ := h.snapshots
  have hchoose : resultOver (choosePreferences s a) files =
      resultOver (choosePreferences (s.atMoment now logTime) a) files' :=
    h.preferences.trans ((sameReading_choosePreferences a).resultOver_eq files')
  refine ((alike_choosePreferences hplace hchoose).complainOf _ _).bind_related ?_
  rintro preferences _ ⟨rfl, hpreferences⟩
  refine (Alike.known (.snapshotPath s source) (.snapshotPath s source)
    (resultOver_snapshotPath s source _ _)).bind_related ?_
  rintro path' _ ⟨rfl, hpath'⟩
  have hpaths : path' = path := Except.ok.inj (hpath'.symm.trans hpath)
  subst hpaths
  have hload : Alike s.logTime logTime (These files files') (loadSnapshot s path')
      (loadSnapshot (s.atMoment now logTime) path')
      (Relating (fun first second => first = snapshot ∧ second = snapshot')
        (These files files')) :=
    .of_results (.loadSnapshot s path') (.loadSnapshot s path') hsnapshot hsnapshot'
  refine (hload.complainOf _ _).bind_related ?_
  rintro snapshot snapshot' ⟨rfl, rfl⟩
  dsimp only
  rw [Tab.selectFrom_ofList, Tab.selectFrom_ofList]
  -- without a list of restrictions both runs stop before a tab is looked at
  cases hentries : ((Value.map preferences).get "restrictedUrls").itemsIfTrue with
  | error cause => exact .throw (.fault cause)
  | ok entries =>
      have hrestrictions : Tab.usableRestrictionsOf ((Value.map preferences).get "restrictedUrls") =
          .ok (Tab.usableRestrictions entries) := by
        rw [Tab.usableRestrictionsOf, hentries]
        rfl
      obtain ⟨hwindow, hgroups, htabs⟩ := hsame preferences _ hpreferences hrestrictions
      simp only [Except.map]
      rw [Tab.select_congr htabs, htabs.length_eq]
      refine (Alike.ofResult _).bind_equally fun tabs => ?_
      refine (Alike.log s (s.atMoment now logTime) a.verbose _).bind_equally fun _ => ?_
      cases tabs.isEmpty with
      | true => exact .complain 3 _
      | false => exact alike_makeDraft hnow (h.template preferences) hwindow hgroups tabs

/-! ### Delivering -/

theorem alike_deliverLink (s : Surroundings) (now : Moment) (logTime : String) (verbose : Bool)
    (draft : Draft) {P : Tree → Tree → Prop} :
    Alike s.logTime logTime P (deliverLink s verbose draft)
      (deliverLink (s.atMoment now logTime) verbose draft) (Equally P) := by
  refine (Alike.ofResult _).bind_equally fun place => ?_
  cases place.isUsable with
  | false => exact (Alike.report (.same _)).bind_equally fun _ => .pure false
  | true =>
      refine (Alike.ofResult _).bind_equally fun limit => ?_
      refine (Alike.ofResult _).bind_equally fun _ => ?_
      split
      · refine (Alike.log s (s.atMoment now logTime) verbose _).bind_equally fun _ => ?_
        exact (Alike.print rfl _).bind_equally fun _ => .pure true
      · exact (Alike.report (.same _)).bind_equally fun _ => .pure false

theorem alike_makeDirectories (s : Surroundings) (now : Moment) (logTime : String) (p : Path) :
    Alike s.logTime logTime (Tree.AgreeBut l) (Session.makeDirectories s p)
      (Session.makeDirectories (s.atMoment now logTime) p) (Equally (Tree.AgreeBut l)) := by
  refine .of_changes (fun _ _ changes h => h.putAll changes) fun t t' h => ?_
  obtain ⟨result, changes, hmade, hmade'⟩ := h.makeDirectories s.workingDirectory p
  have hrun := run_makeDirectories s p t
  have hrun' := run_makeDirectories (s.atMoment now logTime) p t'
  rw [hmade] at hrun
  rw [show (s.atMoment now logTime).workingDirectory = s.workingDirectory from rfl, hmade'] at hrun'
  exact ⟨_, changes, hrun, hrun'⟩

theorem alike_writeText (s : Surroundings) (now : Moment) (logTime : String) (p : Path)
    (text : String) :
    Alike s.logTime logTime (Tree.AgreeBut l) (Session.writeText s p text)
      (Session.writeText (s.atMoment now logTime) p text) (Equally (Tree.AgreeBut l)) := by
  refine .of_changes (fun _ _ changes h => h.putAll changes) fun t t' h => ?_
  have hrun := run_writeText s p text t
  have hrun' := run_writeText (s.atMoment now logTime) p text t'
  rw [show (s.atMoment now logTime).workingDirectory = s.workingDirectory from rfl,
    show contentFor (s.atMoment now logTime) text = contentFor s text from rfl] at hrun'
  rcases h.write s.workingDirectory p (contentFor s text) with
    ⟨cause, hwrite, hwrite'⟩ | ⟨changes, hwrite, hwrite'⟩
  · rw [hwrite] at hrun
    rw [hwrite'] at hrun'
    exact ⟨_, [], hrun, hrun'⟩
  · rw [hwrite] at hrun
    rw [hwrite'] at hrun'
    exact ⟨_, changes, hrun, hrun'⟩

theorem alike_deliverFile (s : Surroundings) (now : Moment) (logTime : String) (a : Arguments)
    (note : Formatted) :
    Alike s.logTime logTime (Tree.AgreeBut l) (deliverFile s a note)
      (deliverFile (s.atMoment now logTime) a note) (Equally (Tree.AgreeBut l)) := by
  have hpath : ∀ files files', resultOver (outputPath s a note) files =
      resultOver (outputPath s a note) files' := by
    intro files files'
    rw [resultOver, resultOver, run_outputPath, run_outputPath]
  refine (Alike.of_resultOver (.outputPath s a note) (.outputPath s a note)
    fun files files' _ => hpath files files').bind_equally fun p => ?_
  refine (alike_makeDirectories s now logTime p.parent).bind_equally fun _ => ?_
  refine (alike_writeText s now logTime p note.markdown).bind_equally fun _ => ?_
  refine (Alike.log s (s.atMoment now logTime) a.verbose _).bind_equally fun _ => ?_
  exact .print rfl p.text

theorem alike_deliver (s : Surroundings) (now : Moment) (logTime : String) (a : Arguments)
    (draft : Draft) :
    Alike s.logTime logTime (Tree.AgreeBut l) (deliver s a draft)
      (deliver (s.atMoment now logTime) a draft) (Equally (Tree.AgreeBut l)) := by
  have hfile := @alike_deliverFile l s now logTime a draft.note
  unfold deliver
  cases a.obsidian with
  | false => exact hfile
  | true =>
      refine (alike_deliverLink s now logTime a.verbose draft).bind_equally fun isDelivered => ?_
      cases isDelivered with
      | false => exact hfile
      | true => exact .pure ()

theorem alike_runExport (hnow : a.now ≠ none) (h : SameButExcluded s a source files files') :
    ∃ l, Alike s.logTime logTime (These files files') (runExport s a source)
      (runExport (s.atMoment now logTime) a source) (Equally (Tree.AgreeBut l)) := by
  obtain ⟨l, hplace⟩ := h.place
  refine ⟨l, (alike_prepare hnow h).bind_equally fun draft => ?_⟩
  -- preparing has changed neither of the two trees, so they still agree but at one place
  have hdeliver := @alike_deliver l s now logTime a draft
  refine (hdeliver.mono ?_).bind_equally fun _ => .pure 0
  rintro _ _ ⟨rfl, rfl⟩
  exact hplace

/-- An export that gives the moment of its note does the same on two trees that differ at most in
tabs that are left out, at whatever time it runs. -/
theorem run_congr_of_excluded {arguments : List String} (hread : readArguments s arguments = .ok a)
    (hexport : a.command = some "export") (hsource : given? a.source = some source)
    (hnow : a.now ≠ none) (h : SameButExcluded s a source files files') (now : Moment)
    (logTime : String) :
    SameRun s.logTime logTime files files' (run s arguments files)
      (run (s.atMoment now logTime) arguments files') := by
  obtain ⟨l, hruns⟩ := @alike_runExport s now logTime source a files files' hnow h
  obtain ⟨result, result', printed, lines, lines', changes, hrun, hrun', hlines, hresult⟩ :=
    hruns ⟨[], [], files⟩ ⟨[], [], files'⟩ ⟨rfl, rfl⟩
  have hplain := @run_export s a arguments files hread hexport
  have hother := @run_export (s.atMoment now logTime) a arguments files' hread hexport
  rw [hsource] at hplain hother
  dsimp only at hplain hother
  rw [hplain, hother, hrun, hrun']
  refine ⟨?_, rfl, ?_, changes, rfl, rfl⟩
  · cases hresult with
    | error stop => rfl
    | ok h => exact congrArg (fun code => Ending.ofSession (.ok code)) h.1
  · simpa [Traces.add] using hlines

/-! ### Two snapshots -/

/-- A home directory with a snapshot. -/
def openTabs (text : String) : Tree :=
  ⟨[(["home"], .directory), (["home", "tabs.json"], .file (Tree.bytesOf text))]⟩

theorem agreeBut_openTabs (text text' : String) :
    (openTabs text).AgreeBut ["home", "tabs.json"] (openTabs text') := by
  intro m
  by_cases hm : m = ["home", "tabs.json"]
  · subst hm
    exact .inr ⟨rfl, ⟨_, rfl⟩, _, rfl⟩
  · refine .inl ?_
    simp [Tree.node?, openTabs, List.lookup_cons, beq_eq_false_iff_ne.mpr hm]

def cacheTabs : String :=
  "[\x7b\"url\": \"https://a.org/\"\x7d, \x7b\"url\": \"about:cache\"\x7d]"

def configTabs : String :=
  "[\x7b\"url\": \"https://a.org/\"\x7d, \x7b\"url\": \"about:config\"\x7d]"

/-- The addresses of two tabs that have nothing but an address. -/
def twoAddresses : Except Stop Snapshot → Option (String × String)
  | .ok ⟨[.map [(.text "url", .text first)], .map [(.text "url", .text second)]], .null, .null⟩ =>
    some (first, second)
  | _ => none

theorem eq_of_twoAddresses {result : Except Stop Snapshot} {first second : String}
    (h : twoAddresses result = some (first, second)) :
    result = .ok ⟨[.map [(.text "url", .text first)], .map [(.text "url", .text second)]],
      .null, .null⟩ := by
  unfold twoAddresses at h
  split at h
  · cases h
    rfl
  · cases h

def openArguments : Arguments :=
  ⟨["export", "tabs.json"], none, none, none, some "2024-01-02T03:04Z", false, true⟩

theorem sameButExcluded_openTabs :
    SameButExcluded atHome openArguments "tabs.json" (openTabs cacheTabs) (openTabs configTabs) := by
  have hpreferences : ∀ files, resultOver (choosePreferences atHome openArguments) files =
      .ok Preferences.defaults := fun _ => rfl
  have htemplate : ∀ preferences files,
      resultOver (chooseTemplate atHome openArguments preferences) files =
        .ok ((Value.map preferences).get "markdownFormat") := fun _ _ => rfl
  have hpath : resultOver (snapshotPath atHome "tabs.json") (openTabs cacheTabs) =
      .ok ⟨.root, ["home", "tabs.json"]⟩ := rfl
  have hcache : twoAddresses (resultOver (loadSnapshot atHome ⟨.root, ["home", "tabs.json"]⟩)
      (openTabs cacheTabs)) = some ("https://a.org/", "about:cache") := by
    decide +kernel
  have hconfig : twoAddresses (resultOver (loadSnapshot atHome ⟨.root, ["home", "tabs.json"]⟩)
      (openTabs configTabs)) = some ("https://a.org/", "about:config") := by
    decide +kernel
  have hpage : ∀ restrictions page, page ≠ "" → Tab.isInternal page = true →
      Tab.isExported restrictions false (.map [(.text "url", .text page)]) = false := by
    intro restrictions page hne hinternal
    have hrestricted : Tab.isRestricted restrictions page = true := by
      simp [Tab.isRestricted, hne, hinternal]
    have hurl : (Value.get (.map [(.text "url", .text page)]) "url").textOrEmpty = page := rfl
    rw [Tab.isExported, hurl, hrestricted]
    simp
  refine ⟨⟨_, agreeBut_openTabs _ _⟩, (hpreferences _).trans (hpreferences _).symm,
    fun preferences => (htemplate _ _).trans (htemplate _ _).symm, _, _, _, hpath,
    eq_of_twoAddresses hcache, eq_of_twoAddresses hconfig, fun _ restrictions _ _ => ?_⟩
  refine ⟨rfl, rfl, .cons (.inl rfl) (.cons (.inr ⟨?_, ?_, rfl⟩) .nil)⟩
  · exact hpage restrictions "about:cache" (by decide) (by decide)
  · exact hpage restrictions "about:config" (by decide) (by decide)

/-- Another page of the browser itself, at another time of the day. -/
theorem run_congr_of_excluded_openTabs :
    SameRun "" "08:00" (openTabs cacheTabs) (openTabs configTabs)
        (run atHome ["export", "tabs.json", "-v", "--now", "2024-01-02T03:04Z"]
          (openTabs cacheTabs))
        (run (atHome.atMoment newMillennium "08:00")
          ["export", "tabs.json", "-v", "--now", "2024-01-02T03:04Z"] (openTabs configTabs)) ∧
      (run atHome ["export", "tabs.json", "-v", "--now", "2024-01-02T03:04Z"]
        (openTabs cacheTabs)).1 = .status 0 := by
  have hread : readArguments atHome ["export", "tabs.json", "-v", "--now", "2024-01-02T03:04Z"] =
      .ok openArguments := rfl
  refine ⟨run_congr_of_excluded hread rfl rfl (by decide) sameButExcluded_openTabs newMillennium
    "08:00", ?_⟩
  decide +kernel

end TabNotes.CommandLine
