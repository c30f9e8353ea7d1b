import TabNotes.Proofs.CommandLine.Preparing

/-! # The same note by a link

An export delivers the same note with and without the switch for links (`run_withLink`).  There is
one exception: a link has no bytes for a file or a vault with a surrogate in its name, for which an
export with the switch fails although it could write the file. -/

namespace TabNotes.CommandLine

open TabNotes.Files TabNotes.Time TabNotes.Note TabNotes.Obsidian TabNotes.Text

variable {s : Surroundings} {a : Arguments} {draft : Draft} {place : Place} {files : Tree}
  {source : String}

/-- The preferences that an export reads, if it can read them. -/
def preferencesOf (s : Surroundings) (a : Arguments) (files : Tree) : Option Entries :=
  (resultOver (choosePreferences s a) files).toOption

/-- The names in the link of a note, in their order: that of its file and that of its vault. -/
def linkNames (place : Place) (stamp : Stamp) : List String :=
  [stampedPath place.notePath stamp.fileName, place.vault]

/-- Where the content of a note can be encoded, only the names in its link are left. -/
theorem check_parameters {note : Formatted} (h : s.standIns.fault? note.markdown = none) :
    s.standIns.check ((requestFor place note).parameters.map Prod.snd) =
      s.standIns.check (linkNames place note.stamp) := by
  have htrue : s.standIns.fault? (flagText true) = none :=
    StandIns.fault?_of_isAscii (by decide)
  have hfalse : s.standIns.fault? (flagText false) = none :=
    StandIns.fault?_of_isAscii (by decide)
  have htexts : (requestFor place note).parameters.map Prod.snd =
      [stampedPath place.notePath note.stamp.fileName, flagText true, place.vault, flagText false,
        flagText false, note.markdown] := rfl
  rw [htexts, linkNames, StandIns.check, StandIns.check]
  simp [List.findSome?_cons, htrue, hfalse, h]

theorem delivery_of_not_obsidian (h : a.obsidian = false) :
    delivery s a place draft files =
      ((fileNote s a draft.note files).1.map Path.text, (fileNote s a draft.note files).2) := by
  rw [delivery, wantedLink, h]
  rfl

/-- A note that is delivered as a file is delivered as a link as well, or as the same file, if the
link has bytes. -/
theorem delivery_of_obsidian (hobsidian : a.obsidian = true)
    (hlimit : IsLimit ((Value.map draft.preferences).get "maxObsidianUriLength")) {p : Path}
    {written : Tree} (hfile : fileNote s a draft.note files = (.ok p, written)) :
    ((place.isUsable = true → s.standIns.check (linkNames place draft.note.stamp) = .ok ()) →
        delivery s a place draft files = (.ok p.text, written) ∨
          ∃ r : Request, r.vault = place.vault ∧ r.content = draft.note.markdown ∧ r.vault ≠ "" ∧
            (r.totalLength : Int) ≤
              limitOf ((Value.map draft.preferences).get "maxObsidianUriLength") ∧
            delivery s a place draft files = (.ok r.link, files)) ∧
      ∀ cause, place.isUsable = true →
        s.standIns.check (linkNames place draft.note.stamp) = .error cause →
          delivery s a place draft files = (.error cause, files) := by
  have hwanted : wantedLink s a place draft = linkFor s place draft := if_pos hobsidian
  unfold delivery
  rw [hwanted, hfile]
  cases husable : place.isUsable with
  | false =>
      rw [linkFor_of_not_isUsable husable]
      exact ⟨fun _ => .inl rfl, fun _ h => by cases h⟩
  | true =>
      rw [linkFor_of_limit husable (linkLimit_eq_ok hlimit),
        check_parameters (fileNote_eq_ok hfile).2.1]
      have hvault : place.vault ≠ "" := by
        intro hempty
        simp [Place.isUsable, hempty] at husable
      refine ⟨fun hcheck => ?_, fun cause _ hcheck => by rw [hcheck]; rfl⟩
      rw [hcheck rfl, Except.map]
      by_cases hlong : limitOf ((Value.map draft.preferences).get "maxObsidianUriLength") <
          (requestFor place draft.note).totalLength
      · rw [if_pos hlong]
        exact .inl rfl
      · rw [if_neg hlong]
        exact .inr ⟨requestFor place draft.note, rfl, rfl, hvault, by omega, rfl⟩

section prepared

variable {now : Moment} {logTime : String} {lines lines' : List String}
  (h : (prepare s a source).run.run ⟨[], [], files⟩ = (.ok draft, ⟨[], lines, files⟩))
  (h' : (prepare (s.atMoment now logTime) a.withLink source).run.run ⟨[], [], files⟩ =
    (.ok draft, ⟨[], lines', files⟩))
  (hplace : Place.ofPreferences (.map draft.preferences) = .ok place)
include h h' hplace

/-- Two exports that have prepared the same note, the second one with the switch for links. -/
theorem delivered_of_prepared (hobsidian : a.obsidian = false)
    (hlimit : IsLimit ((Value.map draft.preferences).get "maxObsidianUriLength"))
    {plain linked : Except Stop Nat × Traces}
    (hplain : plain = (runExport s a source).run.run ⟨[], [], files⟩)
    (hlinked : linked =
      (runExport (s.atMoment now logTime) a.withLink source).run.run ⟨[], [], files⟩) {code : Nat}
    (hcode : Ending.ofSession plain.1 = .status code) :
    code = 0 ∧ ∃ p, WroteFile s files plain.2 p draft.note.markdown ∧
      ((place.isUsable = true → s.standIns.check (linkNames place draft.note.stamp) = .ok ()) →
        linked.1 = .ok 0 ∧
        (WroteFile s files linked.2 p draft.note.markdown ∧ linked.2.files = plain.2.files ∨
          PrintedLink files linked.2 place.vault draft.note.markdown
            (limitOf ((Value.map draft.preferences).get "maxObsidianUriLength")))) ∧
      ∀ cause, place.isUsable = true →
        s.standIns.check (linkNames place draft.note.stamp) = .error cause →
          linked.1 = .error (.fault cause) ∧ linked.2.files = files ∧ linked.2.printed = [] := by
  obtain ⟨shown, hrun⟩ := run_runExport h hplace
  obtain ⟨shown', hrun'⟩ := run_runExport h' hplace
  rw [← hplain, delivery_of_not_obsidian hobsidian] at hrun
  rw [← hlinked] at hrun'
  rcases hfile : fileNote s a draft.note files with ⟨cause | p, written⟩
  · rw [hfile] at hrun
    rw [hrun] at hcode
    cases hcode
  · rw [hfile] at hrun
    rw [hrun] at hcode
    cases hcode
    -- the path and the file do not depend on the switch or on the moment
    have hfile' : fileNote (s.atMoment now logTime) a.withLink draft.note files =
        (.ok p, written) := hfile
    obtain ⟨hdone, hfailed⟩ := @delivery_of_obsidian _ a.withLink draft place files rfl hlimit p
      written hfile'
    refine ⟨rfl, p, hrun ▸ wroteFile_of_fileNote hfile, fun hcheck => ?_, fun cause husable hcheck => ?_⟩
    · rcases hdone hcheck with hwritten | ⟨r, hvault, hcontent, hne, hlength, hlink⟩
      · rw [hrun', hrun, hwritten]
        exact ⟨rfl, .inl ⟨wroteFile_of_fileNote hfile, rfl⟩⟩
      · rw [hrun', hlink, ← hvault, ← hcontent]
        exact ⟨rfl, .inr (printedLink_link hne hlength)⟩
    · rw [hrun', hfailed cause husable hcheck]
      exact ⟨rfl, rfl, rfl⟩

end prepared

theorem preferencesOf_of_preparedOver (h : preparedOver s a source files = .ok draft) :
    preferencesOf s a files = some draft.preferences ∧ IsStampOf s a draft.note.stamp := by
  obtain ⟨snapshot, tabs, template, hmakes, hnote⟩ := preparedOver_eq_ok_iff.mp h
  refine ⟨?_, isStampOf_of_format hnote⟩
  rw [preferencesOf, hmakes.readPreferences]
  rfl

/-- The preparation of a note that is from a given moment, with and without the switch. -/
theorem run_prepare_withLink (hnow : a.now ≠ none) (now : Moment) (logTime : String) :
    ∃ lines lines',
      (prepare s a source).run.run ⟨[], [], files⟩ =
        (preparedOver s a source files, ⟨[], lines, files⟩) ∧
      (prepare (s.atMoment now logTime) a.withLink source).run.run ⟨[], [], files⟩ =
        (preparedOver s a source files, ⟨[], lines', files⟩) := by
  have hreads := onlyReads_prepare s a source
  obtain ⟨lines, hrun⟩ := hreads.run ⟨[], [], files⟩
  have hreads' := (@sameReading_prepare s now logTime a source hnow).onlyReads hreads
  obtain ⟨lines', hrun'⟩ := hreads'.run ⟨[], [], files⟩
  exact ⟨lines, lines', hrun, hrun'⟩

/-- An export that gives the moment of its note delivers the same note with and without the switch
for links, wherever that stands as an argument of its own, and at whatever time it runs; but with
the switch it fails where the link would have to name a surrogate. -/
theorem run_withLink {before after : List String} {b : Arguments}
    (hbefore : readArguments s before = .ok b) (ha : readArguments s (before ++ after) = .ok a)
    (hexport : a.command = some "export") (hobsidian : a.obsidian = false) (hnow : a.now ≠ none)
    (hlimit : ∀ preferences ∈ preferencesOf s a files,
      IsLimit ((Value.map preferences).get "maxObsidianUriLength"))
    (now : Moment) (logTime : String) :
    let plain := run s (before ++ after) files
    let linked := run (s.atMoment now logTime) (before ++ "--obsidian" :: after) files
    (∀ code, plain.1 = .status code → code ≠ 0 →
      linked.1 = .status code ∧ linked.2.files = files) ∧
    (plain.1 = .status 0 → ∃ p markdown preferences place stamp,
      preferencesOf s a files = some preferences ∧
      Place.ofPreferences (.map preferences) = .ok place ∧ IsStampOf s a stamp ∧
      WroteFile s files plain.2 p markdown ∧
      ((place.isUsable = true → s.standIns.check (linkNames place stamp) = .ok ()) →
        linked.1 = .status 0 ∧
        (WroteFile s files linked.2 p markdown ∧ linked.2.files = plain.2.files ∨
          PrintedLink files linked.2
            (trim ((Value.map preferences).get "obsidianVault").textOrEmpty) markdown
            (limitOf ((Value.map preferences).get "maxObsidianUriLength")))) ∧
      ∀ cause, place.isUsable = true →
        s.standIns.check (linkNames place stamp) = .error cause →
          (∃ found, cause = .surrogates found) ∧ linked.1 = .failed cause ∧
            linked.2.files = files ∧ linked.2.printed = []) := by
  intro plain linked
  have hplain : plain = _ := run_export ha hexport
  have hlinked : linked = _ := run_export (readArguments_withLink hbefore ha) hexport
  have hsource : given? a.withLink.source = given? a.source := rfl
  rw [hsource] at hlinked
  cases hgiven : given? a.source with
  | none =>
      rw [hgiven] at hplain hlinked
      rw [hplain, hlinked]
      refine ⟨fun code hcode _ => ⟨hcode, rfl⟩, fun hcode => ?_⟩
      cases hcode
  | some source =>
      rw [hgiven] at hplain hlinked
      dsimp only at hplain hlinked
      obtain ⟨lines, lines', hrun, hrun'⟩ :=
        @run_prepare_withLink s a files source hnow now logTime
      cases hprepared : preparedOver s a source files with
      | error stop =>
          rw [hprepared] at hrun hrun'
          rw [hplain, hlinked, run_runExport_error hrun, run_runExport_error hrun']
          refine ⟨fun code hcode _ => ⟨hcode, rfl⟩, fun hcode => ?_⟩
          cases stop with
          | fault cause => cases hcode
          | status code =>
              cases hcode
              exact absurd hprepared ((onlyReads_prepare s a source).no_success files)
      | ok draft =>
          rw [hprepared] at hrun hrun'
          obtain ⟨hpreferences, hstamp⟩ := preferencesOf_of_preparedOver hprepared
          obtain ⟨place, hplace, hvault, -⟩ := exists_place draft.preferences
          have hdelivered := @delivered_of_prepared s a draft place files source now logTime lines
            lines' hrun hrun' hplace hobsidian (hlimit _ hpreferences) _ _ rfl rfl
          rw [hplain, hlinked]
          refine ⟨fun code hcode hne => absurd (hdelivered hcode).1 hne, fun hcode => ?_⟩
          obtain ⟨-, p, hwrote, hdone, hfailed⟩ := hdelivered hcode
          refine ⟨p, _, _, place, _, hpreferences, hplace, hstamp, hwrote, fun hcheck => ?_,
            fun cause husable hcheck => ?_⟩
          · obtain ⟨hstatus, hsame⟩ := hdone hcheck
            rw [hvault] at hsame
            exact ⟨congrArg Ending.ofSession hstatus, hsame⟩
          · obtain ⟨hfault, hsame, hnothing⟩ := hfailed cause husable hcheck
            exact ⟨StandIns.exists_surrogates_of_check hcheck, congrArg Ending.ofSession hfault,
              hsame, hnothing⟩

/-- A home directory with a snapshot, and with preferences for a vault named by a surrogate. -/
def surrogateFiles : Tree :=
  homeFiles.put ["home", "vault.json"]
    (.file (Tree.bytesOf "\x7b\"obsidianVault\": \"\\ud800\"\x7d"))

/-- A note that is delivered both ways, and one that is delivered as a file only. -/
theorem run_withLink_homeExport :
    (∃ p markdown,
      WroteFile atHome homeFiles (run atHome homeExport homeFiles).2 p markdown ∧
      (run atHome (homeExport ++ ["--obsidian"]) homeFiles).1 = .status 0 ∧
      PrintedLink homeFiles (run atHome (homeExport ++ ["--obsidian"]) homeFiles).2 "Notes"
        markdown 60000) ∧
      (run atHome homeExport surrogateFiles).1 = .status 0 ∧
      (run atHome (homeExport ++ ["--obsidian"]) surrogateFiles).1 =
        .failed (.surrogates ⟨some 0xD800, 0, 0⟩) := by
  let a : Arguments :=
    ⟨["export", "tabs.json"], some "vault.json", none, none, some "2024-01-02T03:04Z", false, false⟩
  have hread : readArguments atHome homeExport = .ok a := rfl
  have hlimit : ∀ preferences ∈ preferencesOf atHome a homeFiles,
      IsLimit ((Value.map preferences).get "maxObsidianUriLength") ∧
        trim ((Value.map preferences).get "obsidianVault").textOrEmpty = "Notes" ∧
        limitOf ((Value.map preferences).get "maxObsidianUriLength") = 60000 := by
    decide +kernel
  have hplain : (run atHome homeExport homeFiles).1 = .status 0 ∧
      (run atHome homeExport homeFiles).2.files ≠ homeFiles := by
    decide +kernel
  have hlinked : (run atHome (homeExport ++ ["--obsidian"]) homeFiles).1 = .status 0 ∧
      (run atHome (homeExport ++ ["--obsidian"]) homeFiles).2.files = homeFiles := by
    decide +kernel
  have hmoment : atHome.atMoment newMillennium "" = atHome := rfl
  have hruns := run_withLink hread ((List.append_nil homeExport).symm ▸ hread) rfl rfl (by decide)
    (fun preferences h => (hlimit preferences h).1) newMillennium ""
  dsimp only at hruns
  rw [List.append_nil, hmoment] at hruns
  obtain ⟨p, markdown, preferences, place, stamp, hpreferences, -, -, hwrote, hdone, hfailed⟩ :=
    hruns.2 hplain.1
  have hcheck : place.isUsable = true →
      atHome.standIns.check (linkNames place stamp) = .ok () := by
    intro husable
    cases hresult : atHome.standIns.check (linkNames place stamp) with
    | ok _ => rfl
    | error cause => cases hlinked.1.symm.trans (hfailed cause husable hresult).2.1
  refine ⟨?_, by decide +kernel, by decide +kernel⟩
  obtain ⟨hstatus, hfile | hlink⟩ := hdone hcheck
  · exact absurd (hfile.2.symm.trans hlinked.2) hplain.2
  · obtain ⟨-, hvault, hmaximum⟩ := hlimit preferences hpreferences
    rw [hvault, hmaximum] at hlink
    exact ⟨p, markdown, hwrote, hstatus, hlink⟩

end TabNotes.CommandLine
