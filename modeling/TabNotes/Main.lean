import Std.Time.Zoned.Database
import TabNotes.CommandLine.Run

/-! # The program

Runs a command line on the computer's own files.  What stands along the paths that the arguments and
the environment name is read first; then the run is computed; then what it changed is written. -/

namespace TabNotes.Program

open TabNotes.CommandLine TabNotes.Files TabNotes.Text TabNotes.Time

/-- The environment variables that a run looks at. -/
def usedVariables : List String := ["HOME", preferencesVariable, verboseVariable]

/-- The variables among the given ones that are set. -/
def readEnvironment : List String → IO (List (String × String))
  | [] => return []
  | name :: names => do
    let others ← readEnvironment names
    match ← IO.getEnv name with
    | some value => return (name, value) :: others
    | none => return others

/-- The lines of a file; there are none when it cannot be read. -/
def readLines (path : String) : IO (List String) := do
  try
    return splitOnChar '\n' (← IO.FS.readFile path)
  catch _ => return []

/-- A line of the user table: the name, the number and the home directory of a user. -/
def userEntry? (line : String) : Option (String × String × String) :=
  match splitOnChar ':' line with
  | user :: _ :: number :: _ :: _ :: home :: _ => some (user, number, home)
  | _ => none

/-- The number of the user who runs this program, as text. -/
def readUserNumber : IO (Option String) := do
  let status ← readLines "/proc/self/status"
  return status.findSome? fun line =>
    match splitOnChar '\t' line with
    | "Uid:" :: number :: _ => some number
    | _ => none

/-- The local clock of the system; that of UTC, when it is not known. -/
def readLocalZone : IO LocalZone := do
  try
    let rules ← Std.Time.Database.defaultGetLocalZoneRules
    return ⟨fun instant =>
      let timestamp := Std.Time.Timestamp.ofSecondsSinceUnixEpoch ⟨instant - epoch / second⟩
      (rules.timezoneAt timestamp).offset.second.val⟩
  catch _ => return .utc

/-- The moment that the clock shows, and the local clock. -/
def readClock : IO Clock := do
  let now ← Std.Time.Timestamp.now
  let sinceEpoch := now.toNanosecondsSinceUnixEpoch.val / 1000
  match Moment.ofClock? (epoch + sinceEpoch) (some 0) with
  | some m => return ⟨m, ← readLocalZone⟩
  | none => throw (IO.userError "the clock shows no time in the years 1 to 9999")

/-- What stands at a location; nothing, when that cannot be read. -/
def readNode (l : Location) : IO (Option Node) := do
  try
    let content ← IO.FS.readBinFile (Path.ofLocation l).text
    return some (.file content.toList)
  catch
    | .inappropriateType none _ _ => return some .directory
    | _ => return none

/-- The locations along some names, from a first one on. -/
def locationsAlong (l : Location) : List String → List Location
  | [] => [l]
  | name :: names => l :: locationsAlong (Path.follow l name) names

/-- The texts in arguments that can be paths: the arguments and what follows an equals sign. -/
def pathTexts (arguments : List String) : List String :=
  arguments ++ arguments.filterMap fun argument =>
    (cutAtChar '=' argument.toList).2.map String.ofList

/-- The locations that a run can look at. -/
def locationsOf (s : Surroundings) (arguments : List String) : List Location :=
  let texts := pathTexts arguments ++ (s.valueOf? preferencesVariable).toList
  let paths := texts.filterMap fun text => (Path.ofText text).expandHome s.homeOf
  locationsAlong [] s.workingDirectory ++
    paths.flatMap fun p => locationsAlong (p.origin s.workingDirectory) p.names

/-- Reads what stands at some locations. -/
def readTree : List Location → IO Tree
  | [] => return Tree.empty
  | l :: ls => do
    let files ← readTree ls
    match ← readNode l with
    | some node => return files.put l node
    | none => return files

/-- Writes a node. -/
def writeNode (l : Location) (node : Node) : IO Unit :=
  let path := (Path.ofLocation l).text
  match node with
  | .directory => IO.FS.createDirAll path
  | .file content => IO.FS.writeBinFile path (ByteArray.mk content.toArray)

/-- The nodes of a tree that another one does not have, those above before those below. -/
def newNodes (before after : Tree) : List (Location × Node) :=
  (after.nodes.filter fun entry => before.node? entry.1 != some entry.2).reverse

/-- Writes the nodes that a run changed. -/
def writeChanges (before after : Tree) : IO Unit :=
  (newNodes before after).forM fun entry => writeNode entry.1 entry.2

/-- Reports how a run ended and gives its exit status. -/
def finish : Ending → IO UInt32
  | .status code => return code.toUInt32
  | .refused .help => return 0
  | .refused cause => do
    IO.eprintln cause.message
    return 1
  | .failed cause => do
    IO.eprintln cause.message
    return 1

/-- The text of the clock in lines of progress. -/
def clockText (clock : Clock) : String :=
  match clock.now.toLocal clock.here with
  | .ok m => m.date.text 1 ++ " " ++ m.timeText ":"
  | .error cause => cause.message

/-- The texts in the files of a tree. -/
def textsOf (files : Tree) : List String :=
  files.nodes.filterMap fun entry =>
    match entry.2 with
    | .file content => (Tree.textOf content).toOption
    | .directory => none

/-- How many brackets can be open at a time in a JSON document: an interpreter has a thousand levels
of recursion, of which the commands take some. -/
def usualNesting : Nat := 990

/-- Runs a command line on the computer's own files. -/
def runHere (arguments : List String) : IO UInt32 := do
  let clock ← readClock
  let users := (← readLines "/etc/passwd").filterMap userEntry?
  let number ← readUserNumber
  let s : Surroundings :=
    { environment := ← readEnvironment usedVariables
      workingDirectory := (Path.ofText (← IO.currentDir).toString).names
      ownHome := (users.find? fun user => some user.2.1 == number).map fun user => user.2.2
      homes := users.map fun user => (user.1, user.2.2)
      clock := clock
      logTime := clockText clock
      output := .everything
      standIns := .notIn []
      nesting := usualNesting }
  let before ← readTree (locationsOf s arguments)
  let texts := arguments ++ s.environment.map Prod.snd ++ textsOf before
  let (ending, traces) := run { s with standIns := Json.standInsFor texts } arguments before
  writeChanges before traces.files
  traces.printed.forM fun line => IO.println line
  traces.reported.forM fun line => IO.eprintln line
  finish ending

end TabNotes.Program

/-- Runs the command line. -/
def main (arguments : List String) : IO UInt32 := TabNotes.Program.runHere arguments
