import TabNotes.Files.Tree
import TabNotes.Notice
import TabNotes.Text.Surrogates
import TabNotes.Time.Coerce

/-! # Sessions

A session is what a command does: it prints lines, reports lines besides, and works on a file tree,
until it comes to a result, to an exit status or to a fault.  What it has printed and written by
then stays. -/

namespace TabNotes.CommandLine

open TabNotes.Files TabNotes.Time TabNotes.Text

/-- Where lines are printed.  The encoding there need not have all characters, but it has those of
ASCII. -/
structure Output where
  /-- Why a line cannot be printed, if it cannot. -/
  fault? : String → Option Fault
  fault?_of_isAscii : ∀ line, IsAscii line → fault? line = none

/-- The output that takes every line. -/
def Output.everything : Output := ⟨fun _ => none, fun _ _ => rfl⟩

/-- What a session finds and cannot change. -/
structure Surroundings where
  /-- The environment variables that are set. -/
  environment : List (String × String)
  workingDirectory : Location
  /-- The home directory of the user who runs the session, in the table of users. -/
  ownHome : Option String
  /-- The home directories of other users. -/
  homes : List (String × String)
  clock : Clock
  /-- The time that lines of progress show. -/
  logTime : String
  output : Output
  /-- The characters that stand in for surrogates in the texts of the session. -/
  standIns : StandIns
  /-- How many brackets can be open at a time in a JSON document. -/
  nesting : Nat

/-- What a session leaves behind: the lines it printed, the lines it reported and the file tree. -/
structure Traces where
  printed : List String
  reported : List String
  files : Tree

/-- What stops a session early. -/
inductive Stop where
  | status (code : Nat)
  | fault (cause : Fault)

/-- A session that comes to a result or stops early. -/
abbrev Session := ExceptT Stop (StateM Traces)

namespace Surroundings

/-- The value of an environment variable. -/
def valueOf? (s : Surroundings) (name : String) : Option String := s.environment.lookup name

/-- The home directory of a user.  The empty name is that of the user who runs the session, for whom
the environment comes before the table of users. -/
def homeOf (s : Surroundings) (user : String) : Option String :=
  if user == "" then (s.valueOf? "HOME").or s.ownHome else s.homes.lookup user

/-- The bytes of a text, which must not hold a surrogate. -/
def encode (s : Surroundings) (text : String) : Except Fault (List UInt8) :=
  match s.standIns.fault? text with
  | some cause => .error cause
  | none => .ok (Tree.bytesOf text)

end Surroundings

namespace Session

/-- Prints a line. -/
def print (s : Surroundings) (line : String) : Session Unit :=
  match s.output.fault? line with
  | some cause => throw (.fault cause)
  | none => modify fun t => { t with printed := t.printed ++ [line] }

/-- Reports a line, with escapes for the characters that have no encoding there. -/
def report (line : String) : Session Unit :=
  modify fun t => { t with reported := t.reported ++ [line] }

/-- Reports a line of progress when asked to. -/
def log (s : Surroundings) (verbose : Bool) (message : String) : Session Unit :=
  if verbose then report ("[tabsidian] " ++ s.logTime ++ " " ++ message) else pure ()

/-- Stops with an exit status. -/
def stop {α : Type} (code : Nat) : Session α := throw (.status code)

/-- Reports a line and stops with an exit status. -/
def complain {α : Type} (code : Nat) (line : String) : Session α := do
  report line
  stop code

/-- The result of a computation, or the end of the session with its fault. -/
def ofResult {α : Type} (result : Except Fault α) : Session α :=
  match result with
  | .ok a => pure a
  | .error fault => throw (.fault fault)

/-- The result of a computation on the file tree. -/
def ofFiles {α : Type} (operation : Tree → Except Fault α) : Session α := do
  let t ← get
  ofResult (operation t.files)

/-- The result of a computation whose notices are reported. -/
def ofReport {α : Type} (r : Report α) : Session α := do
  let (result, notices) := r.outcome
  modify fun t => { t with reported := t.reported ++ notices.map Notice.message }
  ofResult result

/-- Turns the faults of some kinds into a complaint with exit status 2. -/
def complainOf {α : Type} (isExpected : FaultKind → Bool) (line : Fault → String)
    (session : Session α) : Session α :=
  tryCatch session fun
    | .fault fault =>
      if isExpected fault.kind then complain 2 (line fault) else throw (.fault fault)
    | .status code => stop code

/-! ### Files -/

/-- The path that a text writes, with a home directory in place of a tilde. -/
def pathOf (s : Surroundings) (text : String) : Session Path :=
  match (Path.ofText text).expandHome s.homeOf with
  | some p => pure p
  | none => throw (.fault .homeUnknown)

/-- Whether something stands where a path leads. -/
def fileExists (s : Surroundings) (p : Path) : Session Bool :=
  ofFiles fun files => files.exists? s.workingDirectory p

/-- The text of a file. -/
def readText (s : Surroundings) (p : Path) : Session String :=
  ofFiles fun files => files.readText s.workingDirectory p

/-- Makes the directory where a path leads and those above it. -/
def makeDirectories (s : Surroundings) (p : Path) : Session Unit := do
  let t ← get
  let (result, files) := t.files.makeDirectories s.workingDirectory p
  set { t with files := files }
  ofResult result

/-- Writes a text to a file.  The file is opened before the text is encoded, so a text that cannot
be encoded leaves it empty. -/
def writeText (s : Surroundings) (p : Path) (text : String) : Session Unit := do
  let encoded := s.encode text
  let content := encoded.toOption.getD []
  let files ← ofFiles fun files => files.write s.workingDirectory p content
  modify fun t => { t with files := files }
  let _ ← ofResult encoded

end Session

end TabNotes.CommandLine
