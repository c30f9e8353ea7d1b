import TabNotes.CommandLine.Arguments
import TabNotes.CommandLine.Session
import TabNotes.Json
import TabNotes.Note.Format
import TabNotes.Obsidian.Plan
import TabNotes.Tab.Selection

/-! # The export command

An export reads preferences and a snapshot of the tabs, makes a note of those that are selected, and
delivers it: as a link that makes the note in a vault, when that is wanted and possible, or else as
a file.  `prepare` does all the reading and `deliver` all the writing. -/

namespace TabNotes.CommandLine

open TabNotes.Files TabNotes.Note TabNotes.Obsidian

/-- A text that was given and is not empty. -/
def given? (text : Option String) : Option String := text.filter (· != "")

/-- The value that a file holds in JSON. -/
def readJson (s : Surroundings) (p : Path) : Session Value := do
  let text ← Session.readText s p
  Session.ofResult (Json.read s.standIns s.nesting text)

/-! ### Preferences -/

/-- The preferences in a file, over the defaults. -/
def loadPreferences (s : Surroundings) (p : Path) : Session Entries := do
  if ← Session.fileExists s p then
    match ← readJson s p with
    | .map entries => Session.ofResult (Preferences.merge (.map entries) .null)
    | _ => throw (.fault (.configNotObject p.text))
  else throw (.fault (.configMissing p.text))

/-- The environment variable that names a preferences file. -/
def preferencesVariable : String := "TABSIDIAN_CONFIG_PATH"

/-- The preferences in the file that an environment variable names, if it is there. -/
def loadUsualPreferences (s : Surroundings) (verbose : Bool) (p : Path) : Session Entries := do
  if ← Session.fileExists s p then
    Session.log s verbose ("config: " ++ p.text)
    loadPreferences s p
  else
    Session.log s verbose ("config: " ++ p.text ++ " not found, using defaults")
    return Preferences.defaults

/-- The preferences: those of the file in the arguments, or of the usual one, or the defaults. -/
def choosePreferences (s : Surroundings) (a : Arguments) : Session Entries :=
  match given? a.config, given? (s.valueOf? preferencesVariable) with
  | some text, _ => do loadPreferences s (← Session.pathOf s text)
  | none, some text => do loadUsualPreferences s a.verbose (← Session.pathOf s text)
  | none, none => return Preferences.defaults

/-! ### Snapshots -/

/-- What a browser had open. -/
structure Snapshot where
  tabs : List Value
  window : Value
  groups : Value

/-- A snapshot is a list of tabs, or a map that has one. -/
def Snapshot.ofValue? (v : Value) : Option Snapshot :=
  match v with
  | .list _ tabs => some ⟨tabs, .null, .null⟩
  | .map _ =>
    let tabs :=
      match v.get "tabs" with
      | .list _ tabs => tabs
      | _ => []
    some ⟨tabs, v.get "window", v.get "groups"⟩
  | _ => none

/-- The snapshot in a file. -/
def loadSnapshot (s : Surroundings) (p : Path) : Session Snapshot := do
  match Snapshot.ofValue? (← readJson s p) with
  | some snapshot => return snapshot
  | none => throw (.fault (.snapshotShape p.text))

/-- The path of the snapshot from the root. -/
def snapshotPath (s : Surroundings) (text : String) : Session Path := do
  let p ← Session.pathOf s text
  if Tree.holdsNul p then throw (.fault .nulInPath)
  return p.absolute s.workingDirectory

/-! ### Making the note -/

/-- The template in the file that the arguments name, or the one in the preferences. -/
def chooseTemplate (s : Surroundings) (a : Arguments) (preferences : Entries) : Session Value :=
  match given? a.template with
  | some text => do
    let p ← Session.pathOf s text
    return .text (← Session.readText s p)
  | none => return (Value.map preferences).get "markdownFormat"

/-- A note and the preferences that it was made with. -/
structure Draft where
  preferences : Entries
  note : Formatted

/-- The wording for a template that cannot be read. -/
def unreadableTemplate (fault : Fault) : String :=
  "error: cannot read template (" ++ fault.message ++ ")"

/-- Whether a template file with such a fault cannot be read. -/
def isTemplateFileFault (kind : FaultKind) : Bool := kind.isFileKind || kind == .encoding

/-- The options of the export. -/
def optionsOf (a : Arguments) (preferences : Entries) (snapshot : Snapshot) : Options :=
  { Options.none with
    window := snapshot.window
    groups := snapshot.groups
    now := (a.now.map Value.text).getD .null
    preferences := .map preferences }

/-- Makes the note of the selected tabs. -/
def makeDraft (s : Surroundings) (a : Arguments) (preferences : Entries) (snapshot : Snapshot)
    (tabs : List Value) : Session Draft := do
  let template ←
    Session.complainOf isTemplateFileFault unreadableTemplate (chooseTemplate s a preferences)
  let note ←
    Session.complainOf FaultKind.isValueKind (fun fault => "error: " ++ fault.message)
      (Session.ofReport (Note.format s.clock tabs template (optionsOf a preferences snapshot)))
  return ⟨preferences, note⟩

/-- Reads everything and makes the note of the selected tabs. -/
def prepare (s : Surroundings) (a : Arguments) (source : String) : Session Draft := do
  let preferences ←
    Session.complainOf (fun kind => kind.isValueKind || kind == .fileMissing)
      (fun fault => "error: " ++ fault.message) (choosePreferences s a)
  let path ← snapshotPath s source
  let snapshot ←
    Session.complainOf (fun kind => kind.isFileKind || kind.isValueKind)
      (fun fault => "error: cannot read snapshot (" ++ fault.message ++ ")") (loadSnapshot s path)
  let restrictions := (Value.map preferences).get "restrictedUrls"
  let tabs ← Session.ofResult (Tab.selectFrom (.ofList snapshot.tabs) restrictions)
  Session.log s a.verbose
    ("tabs: " ++ toString snapshot.tabs.length ++ " in snapshot, " ++ toString tabs.length ++
      " selected")
  if tabs.isEmpty then
    Session.complain 3 "No exportable tabs found; nothing to do."
  else
    makeDraft s a preferences snapshot tabs

/-! ### Delivering the note -/

/-- The longest link to open after the preferences. -/
def linkLimit (preferences : Entries) : Except Fault Int :=
  (((Value.map preferences).get "maxObsidianUriLength").orElse
    (.int Preferences.defaultLinkLength)).toInteger

/-- The request for a note in a vault. -/
def requestFor (place : Place) (note : Formatted) : Request :=
  { file := stampedPath place.notePath note.stamp.fileName
    vault := place.vault
    content := note.markdown
    clipboard := false
    overwrite := true
    silent := false }

/-- Prints the link that makes the note in its vault, and tells whether there is one.  A link has the
bytes of its parameters, so none of them may hold a surrogate. -/
def deliverLink (s : Surroundings) (verbose : Bool) (draft : Draft) : Session Bool := do
  let place ← Session.ofResult (Place.ofPreferences (.map draft.preferences))
  if place.isUsable then
    let limit ← Session.ofResult (linkLimit draft.preferences)
    let request := requestFor place draft.note
    Session.ofResult (s.standIns.check (request.parameters.map Prod.snd))
    match plan request limit with
    | .openLink link path =>
      Session.log s verbose
        ("obsidian: " ++ path ++ " (" ++ toString link.length ++ " chars)")
      Session.print s link
      return true
    | _ =>
      Session.report "warn: Obsidian export skipped (url_too_long); writing a file instead"
      return false
  else
    Session.report
      "warn: Obsidian export is not configured (obsidianVault, obsidianNotePath)"
    return false

/-- The path of the file: the one in the arguments, or one in the working directory. -/
def outputPath (s : Surroundings) (a : Arguments) (note : Formatted) : Session Path :=
  match given? a.out with
  | some text => Session.pathOf s text
  | none =>
    return (Path.ofLocation s.workingDirectory).child (fileNameFor note.stamp.fileName)

/-- Writes the note to its file and prints the path. -/
def deliverFile (s : Surroundings) (a : Arguments) (note : Formatted) : Session Unit := do
  let path ← outputPath s a note
  Session.makeDirectories s path.parent
  Session.writeText s path note.markdown
  Session.log s a.verbose ("wrote " ++ path.text)
  Session.print s path.text

/-- Delivers the note as a link or as a file. -/
def deliver (s : Surroundings) (a : Arguments) (draft : Draft) : Session Unit := do
  let isDelivered ←
    if a.obsidian then deliverLink s a.verbose draft else pure false
  if !isDelivered then
    deliverFile s a draft.note

/-- Runs the export command. -/
def runExport (s : Surroundings) (a : Arguments) (source : String) : Session Nat := do
  let draft ← prepare s a source
  deliver s a draft
  return 0

end TabNotes.CommandLine
