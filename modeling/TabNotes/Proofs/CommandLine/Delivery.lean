import TabNotes.Proofs.CommandLine.Reading
import TabNotes.Proofs.Files.Tree
import TabNotes.Proofs.Obsidian.LinkReading
import TabNotes.Proofs.Obsidian.NotePath
import TabNotes.Proofs.Text.Surrogates

/-! # Delivering notes

A note goes into a file or into a link, and either way it is the same note, except that a link cannot
name a vault or a file with a surrogate in its name (`run_withLink`). -/

namespace TabNotes.CommandLine

open TabNotes.Files TabNotes.Time TabNotes.Note TabNotes.Obsidian TabNotes.Text

variable {s : Surroundings} {a : Arguments} {note : Formatted} {t : Traces}

/-! ### Files -/

theorem run_makeDirectories (s : Surroundings) (p : Path) (t : Traces) :
    (Session.makeDirectories s p).run.run t =
      ((t.files.makeDirectories s.workingDirectory p).1.mapError .fault,
        { t with files := (t.files.makeDirectories s.workingDirectory p).2 }) := by
  have hrun : (Session.makeDirectories s p).run.run t =
      (Session.ofResult (t.files.makeDirectories s.workingDirectory p).1).run.run
        { t with files := (t.files.makeDirectories s.workingDirectory p).2 } := rfl
  rw [hrun]
  cases (t.files.makeDirectories s.workingDirectory p).1 <;> rfl

/-- What stands in a file that a text is written to, whether or not it can be encoded. -/
def contentFor (s : Surroundings) (text : String) : List UInt8 := (s.encode text).toOption.getD []

theorem run_writeText (s : Surroundings) (p : Path) (text : String) (t : Traces) :
    (Session.writeText s p text).run.run t =
      match t.files.write s.workingDirectory p (contentFor s text) with
      | .ok files => ((s.encode text).mapError .fault |>.map fun _ => (), { t with files := files })
      | .error cause => (.error (.fault cause), t) := by
  have hrun : (Session.writeText s p text).run.run t =
      (Session.ofResult (t.files.write s.workingDirectory p (contentFor s text)) >>= fun files =>
        modify (fun t => { t with files := files }) >>= fun _ =>
          Session.ofResult (s.encode text) >>= fun _ => pure ()).run.run t := rfl
  rw [hrun, run_bind]
  cases t.files.write s.workingDirectory p (contentFor s text) with
  | error cause => rfl
  | ok files => cases s.encode text <;> rfl

theorem encode_eq_ok {text : String} (h : s.standIns.fault? text = none) :
    s.encode text = .ok (Tree.bytesOf text) := by
  rw [Surroundings.encode, h]

theorem contentFor_eq {text : String} (h : s.standIns.fault? text = none) :
    contentFor s text = Tree.bytesOf text := by
  rw [contentFor, encode_eq_ok h]
  rfl

/-- The path of the file of a note, if it is known. -/
def outputOf (s : Surroundings) (a : Arguments) (note : Formatted) : Except Fault Path :=
  match given? a.out with
  | some text =>
    match (Path.ofText text).expandHome s.homeOf with
    | some p => .ok p
    | none => .error .homeUnknown
  | none => .ok ((Path.ofLocation s.workingDirectory).child (fileNameFor note.stamp.fileName))

theorem run_outputPath (s : Surroundings) (a : Arguments) (note : Formatted) (t : Traces) :
    (outputPath s a note).run.run t = ((outputOf s a note).mapError .fault, t) := by
  unfold outputPath outputOf Session.pathOf
  cases given? a.out with
  | none => rfl
  | some text =>
      dsimp only
      cases (Path.ofText text).expandHome s.homeOf <;> rfl

/-- The path of a note that is written, unless the note could not be encoded or the path cannot be
printed. -/
def shownPath (s : Surroundings) (note : Formatted) (p : Path) : Except Fault Path := do
  let _ ← s.encode note.markdown
  match s.output.fault? p.text with
  | some cause => .error cause
  | none => .ok p

/-- The path that a note is written to and the tree after that, or after what stopped it. -/
def fileNote (s : Surroundings) (a : Arguments) (note : Formatted) (files : Tree) :
    Except Fault Path × Tree :=
  match outputOf s a note with
  | .error cause => (.error cause, files)
  | .ok p =>
    match files.makeDirectories s.workingDirectory p.parent with
    | (.error cause, made) => (.error cause, made)
    | (.ok (), made) =>
      match made.write s.workingDirectory p (contentFor s note.markdown) with
      | .error cause => (.error cause, made)
      | .ok written => (shownPath s note p, written)

theorem shownPath_eq_ok_iff {p q : Path} :
    shownPath s note p = .ok q ↔
      p = q ∧ s.standIns.fault? note.markdown = none ∧ s.output.fault? p.text = none := by
  rw [shownPath, Surroundings.encode]
  cases s.standIns.fault? note.markdown with
  | some cause => simp [bind, Except.bind]
  | none => cases s.output.fault? p.text <;> simp [bind, Except.bind]

theorem run_deliverFile (s : Surroundings) (a : Arguments) (note : Formatted) (t : Traces) :
    ∃ lines, (deliverFile s a note).run.run t =
      match fileNote s a note t.files with
      | (.ok p, files) => (.ok (), ⟨t.printed ++ [p.text], t.reported ++ lines, files⟩)
      | (.error cause, files) =>
        (.error (.fault cause), ⟨t.printed, t.reported ++ lines, files⟩) := by
  have hnothing : ∀ result : Except Stop Unit × Tree,
      (result.1, Traces.mk t.printed t.reported result.2) =
        (result.1, Traces.mk t.printed (t.reported ++ []) result.2) := by simp
  simp only [deliverFile, run_bind, run_outputPath]
  unfold fileNote
  cases outputOf s a note with
  | error cause => exact ⟨[], hnothing (_, _)⟩
  | ok p =>
      simp only [mapError_ok, run_makeDirectories, run_writeText]
      rcases t.files.makeDirectories s.workingDirectory p.parent with ⟨cause | ⟨⟩, made⟩
      · exact ⟨[], hnothing (_, _)⟩
      · rw [mapError_ok]
        dsimp only
        cases made.write s.workingDirectory p (contentFor s note.markdown) with
        | error cause => exact ⟨[], hnothing (_, _)⟩
        | ok written =>
            rw [shownPath]
            cases s.encode note.markdown with
            | error cause => exact ⟨[], hnothing (_, _)⟩
            | ok content =>
                obtain ⟨lines, hlog⟩ := (OnlyReads.log s a.verbose ("wrote " ++ p.text)).run
                  { t with files := written }
                refine ⟨lines, ?_⟩
                simp only [mapError_ok, Except.map, hlog, Session.print]
                cases s.output.fault? p.text <;> rfl

/-- A run that wrote a text to a file, made directories for it, and printed its path. -/
structure WroteFile (s : Surroundings) (files : Tree) (t : Traces) (p : Path) (text : String) :
    Prop where
  printed : t.printed = [p.text]
  content : t.files.read s.workingDirectory p = .ok (Tree.bytesOf text)
  /-- At any other place nothing changes, except for new directories. -/
  others : ∃ l, t.files.locate s.workingDirectory p = .ok l ∧ ∀ m, m ≠ l →
    t.files.node? m = files.node? m ∨
      files.node? m = none ∧ t.files.node? m = some .directory

/-- Directories are made, and then the note is written to its file, unless there is a fault. -/
theorem fileNote_cases (s : Surroundings) (a : Arguments) (note : Formatted) (files : Tree) :
    ∃ made, files.Grows made ∧ ((∃ cause, fileNote s a note files = (.error cause, made)) ∨
      ∃ p written, outputOf s a note = .ok p ∧
        made.write s.workingDirectory p (contentFor s note.markdown) = .ok written ∧
        fileNote s a note files = (shownPath s note p, written)) := by
  unfold fileNote
  cases outputOf s a note with
  | error cause => exact ⟨files, .refl files, .inl ⟨cause, rfl⟩⟩
  | ok p =>
      have hgrows := Tree.grows_makeDirectories files s.workingDirectory p.parent
      dsimp only
      rcases hmade : files.makeDirectories s.workingDirectory p.parent with ⟨cause | ⟨⟩, made⟩
      · rw [hmade] at hgrows
        exact ⟨made, hgrows, .inl ⟨cause, rfl⟩⟩
      · rw [hmade] at hgrows
        refine ⟨made, hgrows, ?_⟩
        dsimp only
        cases hwrite : made.write s.workingDirectory p (contentFor s note.markdown) with
        | error cause => exact .inl ⟨cause, rfl⟩
        | ok written => exact .inr ⟨p, written, rfl, hwrite, rfl⟩

/-- A note that is written can be encoded and its path printed. -/
theorem fileNote_eq_ok {files written : Tree} {p : Path}
    (h : fileNote s a note files = (.ok p, written)) :
    outputOf s a note = .ok p ∧ s.standIns.fault? note.markdown = none ∧
      ∃ made, files.Grows made ∧
        made.write s.workingDirectory p (Tree.bytesOf note.markdown) = .ok written := by
  obtain ⟨made, hgrows, ⟨cause, hfault⟩ | ⟨q, left, hpath, hwritten, hfiled⟩⟩ :=
    fileNote_cases s a note files
  · rw [hfault] at h
    cases h
  · rw [hfiled, Prod.mk.injEq, shownPath_eq_ok_iff] at h
    obtain ⟨⟨rfl, hplain, -⟩, rfl⟩ := h
    rw [contentFor_eq hplain] at hwritten
    exact ⟨hpath, hplain, made, hgrows, hwritten⟩

theorem wroteFile_of_fileNote {files written : Tree} {p : Path}
    (h : fileNote s a note files = (.ok p, written)) {lines : List String} :
    WroteFile s files ⟨[p.text], lines, written⟩ p note.markdown := by
  obtain ⟨-, -, made, hgrows, hwritten⟩ := fileNote_eq_ok h
  obtain ⟨-, l, hlocate, hnode, hput⟩ := Tree.write_eq_ok hwritten
  refine ⟨rfl, Tree.read_of_write hwritten, l, ?_, fun m hm => ?_⟩
  · rw [hput]
    exact Tree.walk_put hnode hlocate
  · rw [hput, Tree.node?_put (Tree.ne_root_of_node? hnode), if_neg hm]
    exact hgrows m

/-! ### Links -/

/-- A run that printed a link that makes a note of a text in a vault, and changed no file. -/
structure PrintedLink (files : Tree) (t : Traces) (vault text : String) (limit : Int) : Prop where
  files_eq : t.files = files
  link : ∃ link parameters, t.printed = [link] ∧ newNote.toList <+: link.toList ∧
    readLink link = some parameters ∧
    parameters.lookup "content" = (if text = "" then none else some text) ∧
    parameters.lookup "vault" = some vault ∧ (link.toList.length : Int) ≤ limit

/-- The limit on links that preferences set: zero and null stand for the default. -/
def limitOf (v : Value) : Int :=
  match v with
  | .int n => if n = 0 then Preferences.defaultLinkLength else n
  | _ => Preferences.defaultLinkLength

/-- A limit that is not set, or an integer. -/
def IsLimit (v : Value) : Prop := v = .null ∨ ∃ n, v = .int n

instance : DecidablePred IsLimit := fun v =>
  match v with
  | .null => isTrue (.inl rfl)
  | .int n => isTrue (.inr ⟨n, rfl⟩)
  | .bool _ | .float _ | .text _ | .list _ _ | .map _ | .moment _ | .zone _ | .function =>
    isFalse (by simp [IsLimit])

theorem linkLimit_eq_ok {preferences : Entries}
    (h : IsLimit ((Value.map preferences).get "maxObsidianUriLength")) :
    linkLimit preferences = .ok (limitOf ((Value.map preferences).get "maxObsidianUriLength")) := by
  unfold linkLimit
  rcases h with h | ⟨n, h⟩
  · rw [h]
    rfl
  · rw [h]
    by_cases hn : n = 0
    · rw [hn]
      rfl
    · have htrue : (Value.int n).isTrue = true := by simpa [Value.isTrue] using hn
      rw [Value.orElse, if_pos htrue, limitOf, if_neg hn]
      rfl

theorem printedLink_link {r : Request} {limit : Int} (hvault : r.vault ≠ "")
    (hlength : (r.totalLength : Int) ≤ limit) {files : Tree} {lines : List String} :
    PrintedLink files ⟨[r.link], lines, files⟩ r.vault r.content limit := by
  obtain ⟨-, -, hlookup, -, -, hcontent⟩ := lookup_shown r
  refine ⟨rfl, r.link, r.shown, rfl, ?_, readLink_eq_shown r, ?_, ?_, hlength⟩
  · rcases link_cases r with ⟨-, h⟩ | ⟨-, query, h, -⟩
    · rw [h]
    · rw [h]
      exact List.prefix_append _ _
  · rw [hcontent]
    by_cases hempty : r.content = ""
    · simp [hempty]
    · simp [hempty]
  · rw [hlookup, if_pos hvault]

theorem plan_of_not_clipboard {r : Request} (h : r.clipboard = false) (limit : Int) :
    plan r limit =
      if limit < r.totalLength then .tooLong r.file r.totalLength else .openLink r.link r.file := by
  rw [plan, planFor, h]
  by_cases hlong : limit < r.totalLength
  · simp [hlong]
  · simp [hlong]

/-- The link of a note, if there is a place for it and the link is not too long. -/
def linkFor (s : Surroundings) (place : Place) (draft : Draft) : Except Fault (Option String) :=
  if place.isUsable then do
    let limit ← linkLimit draft.preferences
    let request := requestFor place draft.note
    s.standIns.check (request.parameters.map Prod.snd)
    return if limit < request.totalLength then none else some request.link
  else .ok none

section links

variable {draft : Draft} {place : Place} {limit : Int} {cause : Fault}

theorem linkFor_of_not_isUsable (h : place.isUsable = false) : linkFor s place draft = .ok none := by
  rw [linkFor, h]
  rfl

theorem linkFor_of_error (husable : place.isUsable = true)
    (h : linkLimit draft.preferences = .error cause) : linkFor s place draft = .error cause := by
  rw [linkFor, husable, if_pos rfl, h]
  rfl

theorem linkFor_of_limit (husable : place.isUsable = true)
    (h : linkLimit draft.preferences = .ok limit) :
    linkFor s place draft =
      (s.standIns.check ((requestFor place draft.note).parameters.map Prod.snd)).map fun _ =>
        if limit < (requestFor place draft.note).totalLength then none
        else some (requestFor place draft.note).link := by
  rw [linkFor, husable, if_pos rfl, h]
  change (s.standIns.check _ >>= fun _ => pure _) = _
  cases s.standIns.check ((requestFor place draft.note).parameters.map Prod.snd) with
  | error cause => rfl
  | ok _ => rfl

theorem isAscii_link (r : Request) : IsAscii r.link := by
  have hnew : IsAscii newNote := by decide
  rcases link_cases r with ⟨-, h⟩ | ⟨-, query, h, hquery⟩
  · rw [IsAscii, h]
    exact hnew
  · intro c hc
    rw [h, List.mem_append, List.mem_cons] at hc
    rcases hc with hc | rfl | hc
    · exact hnew c hc
    · decide
    · exact hquery.isAscii c hc

/-- The output takes every link. -/
theorem run_print_link (s : Surroundings) (r : Request) (t : Traces) :
    (Session.print s r.link).run.run t = (.ok (), { t with printed := t.printed ++ [r.link] }) :=
  run_print_of_fault?_eq_none (s.output.fault?_of_isAscii _ (isAscii_link r)) t

/-- A link is printed, or it is reported why there is none. -/
theorem run_deliverLink (hplace : Place.ofPreferences (.map draft.preferences) = .ok place)
    (verbose : Bool) (t : Traces) :
    ∃ lines, (deliverLink s verbose draft).run.run t =
      match linkFor s place draft with
      | .error cause => (.error (.fault cause), t)
      | .ok none => (.ok false, { t with reported := t.reported ++ lines })
      | .ok (some link) => (.ok true, ⟨t.printed ++ [link], t.reported ++ lines, t.files⟩) := by
  unfold deliverLink
  rw [hplace]
  simp only [Session.ofResult, pure_bind]
  cases husable : place.isUsable with
  | false =>
      rw [linkFor_of_not_isUsable husable]
      exact ⟨_, rfl⟩
  | true =>
      rw [if_pos rfl]
      cases hlimit : linkLimit draft.preferences with
      | error cause =>
          rw [linkFor_of_error husable hlimit]
          exact ⟨[], rfl⟩
      | ok limit =>
          rw [linkFor_of_limit husable hlimit]
          simp only [pure_bind]
          cases s.standIns.check ((requestFor place draft.note).parameters.map Prod.snd) with
          | error cause => exact ⟨[], rfl⟩
          | ok _ =>
              rw [pure_bind, plan_of_not_clipboard rfl, Except.map]
              by_cases hlong : limit < (requestFor place draft.note).totalLength
              · rw [if_pos hlong, if_pos hlong]
                exact ⟨_, rfl⟩
              · rw [if_neg hlong, if_neg hlong]
                obtain ⟨lines, hlog⟩ := (OnlyReads.log s verbose _).run t
                refine ⟨lines, ?_⟩
                dsimp only
                rw [run_bind, hlog]
                dsimp only
                rw [run_bind, run_print_link]
                rfl

end links

/-! ### Exports -/

theorem run_export {arguments : List String} {files : Tree}
    (h : readArguments s arguments = .ok a) (hexport : a.command = some "export") :
    run s arguments files =
      match given? a.source with
      | some source =>
        (.ofSession ((runExport s a source).run.run ⟨[], [], files⟩).1,
          ((runExport s a source).run.run ⟨[], [], files⟩).2)
      | none => (.status 2, ⟨[], [usage], files⟩) := by
  rw [run, h]
  dsimp only
  rw [runCommand, hexport]
  cases given? a.source <;> rfl

/-- The link of an export that wants one. -/
def wantedLink (s : Surroundings) (a : Arguments) (place : Place) (draft : Draft) :
    Except Fault (Option String) :=
  if a.obsidian then linkFor s place draft else .ok none

/-- The line that is printed for a note which is delivered, and the tree after that, or after what
stopped it. -/
def delivery (s : Surroundings) (a : Arguments) (place : Place) (draft : Draft) (files : Tree) :
    Except Fault String × Tree :=
  match wantedLink s a place draft with
  | .error cause => (.error cause, files)
  | .ok (some link) => (.ok link, files)
  | .ok none =>
    ((fileNote s a draft.note files).1.map Path.text, (fileNote s a draft.note files).2)

theorem run_deliver {draft : Draft} {place : Place}
    (hplace : Place.ofPreferences (.map draft.preferences) = .ok place) (t : Traces) :
    ∃ lines, (deliver s a draft).run.run t =
      match delivery s a place draft t.files with
      | (.ok line, files) => (.ok (), ⟨t.printed ++ [line], t.reported ++ lines, files⟩)
      | (.error cause, files) =>
        (.error (.fault cause), ⟨t.printed, t.reported ++ lines, files⟩) := by
  have hfile : ∀ reported, ∃ lines,
      (deliverFile s a draft.note).run.run { t with reported := t.reported ++ reported } =
        match (fileNote s a draft.note t.files).1.map Path.text with
        | .ok line => (.ok (), ⟨t.printed ++ [line], t.reported ++ lines,
            (fileNote s a draft.note t.files).2⟩)
        | .error cause => (.error (.fault cause), ⟨t.printed, t.reported ++ lines,
            (fileNote s a draft.note t.files).2⟩) := by
    intro reported
    obtain ⟨lines, hrun⟩ :=
      run_deliverFile s a draft.note { t with reported := t.reported ++ reported }
    rw [hrun]
    rcases fileNote s a draft.note t.files with ⟨cause | p, files⟩
    · exact ⟨reported ++ lines, by rw [← List.append_assoc]; rfl⟩
    · exact ⟨reported ++ lines, by rw [← List.append_assoc]; rfl⟩
  unfold deliver delivery wantedLink
  cases a.obsidian with
  | false =>
      obtain ⟨lines, hrun⟩ := hfile []
      rw [List.append_nil] at hrun
      refine ⟨lines, hrun.trans ?_⟩
      cases (fileNote s a draft.note t.files).1 <;> rfl
  | true =>
      obtain ⟨shown, hlink⟩ := @run_deliverLink s draft place hplace a.verbose t
      rw [if_pos rfl, if_pos rfl, run_bind, hlink]
      cases linkFor s place draft with
      | error cause => exact ⟨[], by rw [List.append_nil]⟩
      | ok link =>
          cases link with
          | some link => exact ⟨shown, rfl⟩
          | none =>
              obtain ⟨lines, hrun⟩ := hfile shown
              refine ⟨lines, hrun.trans ?_⟩
              cases (fileNote s a draft.note t.files).1 <;> rfl

/-- Once the note is prepared, an export delivers it. -/
theorem run_runExport {source : String} {draft : Draft} {place : Place} {t' : Traces}
    (h : (prepare s a source).run.run t = (.ok draft, t'))
    (hplace : Place.ofPreferences (.map draft.preferences) = .ok place) :
    ∃ lines, (runExport s a source).run.run t =
      match delivery s a place draft t'.files with
      | (.ok line, files) => (.ok 0, ⟨t'.printed ++ [line], t'.reported ++ lines, files⟩)
      | (.error cause, files) =>
        (.error (.fault cause), ⟨t'.printed, t'.reported ++ lines, files⟩) := by
  obtain ⟨lines, hrun⟩ := @run_deliver s a draft place hplace t'
  refine ⟨lines, ?_⟩
  rw [runExport, run_bind, h]
  dsimp only
  rw [run_bind, hrun]
  rcases delivery s a place draft t'.files with ⟨_ | _, _⟩ <;> rfl

theorem run_runExport_error {source : String} {stop : Stop} {t' : Traces}
    (h : (prepare s a source).run.run t = (.error stop, t')) :
    (runExport s a source).run.run t = (.error stop, t') := by
  rw [runExport, run_bind, h]

/-- A note that is delivered goes into a file, or into a link. -/
theorem delivery_eq_ok {draft : Draft} {place : Place} {files left : Tree} {line : String}
    (h : delivery s a place draft files = (.ok line, left)) :
    (wantedLink s a place draft = .ok none ∧
        ∃ p, fileNote s a draft.note files = (.ok p, left) ∧ line = p.text) ∨
      (wantedLink s a place draft = .ok (some line) ∧ left = files) := by
  unfold delivery at h
  cases hlink : wantedLink s a place draft with
  | error cause =>
      rw [hlink] at h
      cases h
  | ok link =>
      rw [hlink] at h
      cases link with
      | some link =>
          cases h
          exact .inr ⟨rfl, rfl⟩
      | none =>
          rcases hfile : fileNote s a draft.note files with ⟨cause | p, written⟩
          · rw [hfile] at h
            cases h
          · rw [hfile] at h
            cases h
            exact .inl ⟨rfl, p, rfl, rfl⟩

/-- The surroundings of a session in a home directory. -/
def atHome : Surroundings := .bare ["home"] newMillennium

/-- A home directory with a snapshot, and with preferences for a vault and for a note that is not in
ASCII. -/
def homeFiles : Tree :=
  ⟨[(["home"], .directory),
    (["home", "tabs.json"], .file (Tree.bytesOf "[\x7b\"url\": \"https://a.org/\"\x7d]")),
    (["home", "vault.json"],
      .file (Tree.bytesOf ("\x7b\"obsidianVault\": \" Notes\", \"obsidianNotePath\": \"Tabs\", " ++
        "\"markdownFormat\": \"é\"\x7d")))]⟩

def homeExport : List String :=
  ["export", "tabs.json", "--config", "vault.json", "--now", "2024-01-02T03:04Z"]

end TabNotes.CommandLine
