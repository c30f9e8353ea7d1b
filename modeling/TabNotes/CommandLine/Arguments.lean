import TabNotes.Text.Blank
import TabNotes.Text.LowerCase
import TabNotes.Text.Search

/-! # Arguments

The arguments of a command line are options, some of which take a value, and at most two others: the
command and what it works on.  A value follows its option as an argument of its own, whatever it
looks like, or after an equals sign.  Of several values of an option the last one counts.

`Argument.of` sorts a single argument, and `parse` goes through all of them. -/

namespace TabNotes.CommandLine

open TabNotes.Text

/-- An option that takes a value. -/
inductive ValueOption where
  | config
  | template
  | out
  | now
deriving DecidableEq

namespace ValueOption

/-- An option as it is written. -/
def flag : ValueOption → String
  | config => "--config"
  | template => "--template"
  | out => "--out"
  | now => "--now"

/-- The option that is written in a given way. -/
def ofFlag? (s : String) : Option ValueOption :=
  [config, template, out, now].find? fun option => option.flag == s

end ValueOption

/-- What a single argument is. -/
inductive Argument where
  /-- An option whose value is the next argument. -/
  | option (which : ValueOption)
  /-- An option with its value. -/
  | assignment (which : ValueOption) (value : String)
  | verbose
  | obsidian
  | help
  | unknownOption
  | positional
deriving DecidableEq

/-- Sorts an argument that is no option with a value. -/
def Argument.ofWord (s : String) : Argument :=
  if s == "-h" || s == "--help" then help
  else if beginsWith "-" s then unknownOption
  else positional

/-- Sorts an argument that is no option of its own: one with a value after an equals sign, or a
word. -/
def Argument.ofAssignment (s : String) : Argument :=
  match cutAtChar '=' s.toList with
  | (name, some value) =>
    match ValueOption.ofFlag? (String.ofList name) with
    | some which => assignment which (String.ofList value)
    | none => ofWord s
  | (_, none) => ofWord s

/-- Sorts an argument. -/
def Argument.of (s : String) : Argument :=
  if s == "-v" || s == "--verbose" then verbose
  else if s == "--obsidian" then obsidian
  else
    match ValueOption.ofFlag? s with
    | some which => option which
    | none => ofAssignment s

/-- What the arguments of a command line say. -/
structure Arguments where
  /-- The arguments that are no options, in their order. -/
  positional : List String
  config : Option String
  template : Option String
  out : Option String
  now : Option String
  obsidian : Bool
  verbose : Bool
deriving DecidableEq

namespace Arguments

/-- What no arguments say, given whether progress is reported anyway. -/
def none (verbose : Bool) : Arguments :=
  ⟨[], Option.none, Option.none, Option.none, Option.none, false, verbose⟩

/-- Sets the value of an option. -/
def set (a : Arguments) (which : ValueOption) (value : String) : Arguments :=
  match which with
  | .config => { a with config := some value }
  | .template => { a with template := some value }
  | .out => { a with out := some value }
  | .now => { a with now := some value }

/-- The command. -/
def command (a : Arguments) : Option String := a.positional[0]?

/-- What the command works on. -/
def source (a : Arguments) : Option String := a.positional[1]?

end Arguments

/-- Why arguments are not accepted; asking for help is one reason. -/
inductive Refusal where
  | help
  | missingValue (option : String)
  | unknownOption (argument : String)
  | tooManyArguments (rest : List String)
deriving DecidableEq

/-- The wording of a refusal; help speaks for itself. -/
def Refusal.message : Refusal → String
  | help => ""
  | missingValue option => option ++ " requires a value"
  | unknownOption argument => "unknown option: " ++ argument
  | tooManyArguments rest => "unknown args: " ++ String.intercalate " " rest

/-- Goes through arguments one by one, up to the first one that is refused. -/
def scan (a : Arguments) : List String → Except Refusal Arguments
  | [] => .ok a
  | argument :: arguments =>
    match Argument.of argument with
    | .option which =>
      match arguments with
      | [] => .error (.missingValue argument)
      | value :: arguments => scan (a.set which value) arguments
    | .assignment which value => scan (a.set which value) arguments
    | .verbose => scan { a with verbose := true } arguments
    | .obsidian => scan { a with obsidian := true } arguments
    | .help => .error .help
    | .unknownOption => .error (.unknownOption argument)
    | .positional => scan { a with positional := a.positional ++ [argument] } arguments

/-- Reads arguments; more than a command and what it works on is refused after everything else. -/
def parse (verbose : Bool) (arguments : List String) : Except Refusal Arguments := do
  let a ← scan (.none verbose) arguments
  match a.positional.drop 2 with
  | [] => return a
  | rest => .error (.tooManyArguments rest)

/-! ### Switches -/

/-- The words that turn a switch on. -/
def onWords : List String := ["1", "true", "yes", "on", "y"]

/-- Whether a switch is on; an unset one is as its default says, and any other word than those that
turn it on turns it off. -/
def isOn (default : Bool) (value : Option String) : Bool :=
  match value with
  | some s => onWords.contains (lower (trim s))
  | Option.none => default

end TabNotes.CommandLine
