import TabNotes.CommandLine.Export
import TabNotes.Template.Review

/-! # Running the command line

`run` reads the arguments of a command line, runs the command and says how it ended. -/

namespace TabNotes.CommandLine

open TabNotes.Files TabNotes.Template

/-- How to call the program. -/
def usage : String :=
  "usage: tabsidian export <tabs.json> [--config FILE] [--template FILE] [--out FILE] " ++
    "[--now ISO] [--obsidian] [-v]\n       tabsidian validate <template-file>"

/-- Runs the command that reviews a template: the exit status is 4 when it has errors. -/
def runValidate (s : Surroundings) (source : String) : Session Nat := do
  let template ←
    Session.complainOf isTemplateFileFault unreadableTemplate do
      let p ← Session.pathOf s source
      Session.readText s p
  let review := Template.review (.text template)
  (review.errors.map fun fault => "error: " ++ fault.message).forM Session.report
  (review.warnings.map fun warning => "warn: " ++ warning.message).forM Session.report
  if review.errors.isEmpty then
    Session.print s "Template ready."
    return 0
  else
    return 4

/-- Runs the command that the arguments name. -/
def runCommand (s : Surroundings) (a : Arguments) : Session Nat :=
  match a.command, given? a.source with
  | some "export", some source => runExport s a source
  | some "validate", some source => runValidate s source
  | _, _ => Session.complain 2 usage

/-- How a run ends. -/
inductive Ending where
  | status (code : Nat)
  /-- The arguments were not accepted. -/
  | refused (cause : Refusal)
  /-- A fault that no command expects. -/
  | failed (cause : Fault)
deriving DecidableEq

/-- How a session ends. -/
def Ending.ofSession : Except Stop Nat → Ending
  | .ok code => status code
  | .error (.status code) => status code
  | .error (.fault cause) => failed cause

/-- The environment variable that asks for progress to be reported. -/
def verboseVariable : String := "TABSIDIAN_VERBOSE"

/-- Reads the arguments of a command line. -/
def readArguments (s : Surroundings) (arguments : List String) : Except Refusal Arguments :=
  parse (isOn false (s.valueOf? verboseVariable)) arguments

/-- What is reported when arguments are refused. -/
def Refusal.report : Refusal → List String
  | help => [usage]
  | _ => []

/-- Runs a command line on a file tree. -/
def run (s : Surroundings) (arguments : List String) (files : Tree) : Ending × Traces :=
  match readArguments s arguments with
  | .error cause => (.refused cause, ⟨[], cause.report, files⟩)
  | .ok a =>
    let (result, traces) := (runCommand s a).run.run ⟨[], [], files⟩
    (.ofSession result, traces)

end TabNotes.CommandLine
