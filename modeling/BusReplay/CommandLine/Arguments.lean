import BusReplay.CommandLine.OptionKey
import BusReplay.Input.Source

/-!
# Arguments of a run

What an accepted command line asks for.
-/

namespace BusReplay.CommandLine

structure Arguments where
  system : Bool
  session : Bool
  /-- The bus name of the calls on standard input. -/
  name : Option String
  target : Target
  /-- The wanted result classes as they were given. -/
  filter : List ResultClass
  files : List String
  logFormat : Option Log.Format
  debug : Bool
  completions : Option Shell
  manPage : Bool
  deriving DecidableEq, Repr

inductive Task
  /-- Write the completions for a shell. -/
  | completions (shell : Shell)
  | manPage
  /-- Refuse standard input that no bus name was given for. -/
  | refuse
  /-- Process the sources. -/
  | replay
  deriving DecidableEq, Repr

namespace Arguments

def busScope (args : Arguments) : BusScope := if args.system then .system else .session

def resultFilter (args : Arguments) : ResultFilter := .ofList args.filter

def sources (args : Arguments) : List Source := args.files.map Source.ofPath

/-- Standard input can be a source only when a bus name was given for it. -/
def stdinWithoutName (args : Arguments) : Bool :=
  args.name.isNone && args.sources.any Source.isStdin

/-- The task that arguments set: a generated text goes before everything else. -/
def task (args : Arguments) : Task :=
  match args.completions with
  | some shell => .completions shell
  | none =>
    if args.manPage then .manPage
    else if args.stdinWithoutName then .refuse
    else .replay

end Arguments

/-- Names of values as they are shown in a description of the arguments. -/
def targetName : Target → String
  | .dbusSend => "DbusSend"
  | .gdbus => "Gdbus"

def resultClassName : ResultClass → String
  | .crash => "Crash"
  | .success => "Success"
  | .commandExecutionError => "CommandExecutionError"

/-- An optional value as it is shown in a description of the arguments. -/
def describeOption {α : Type} (describe : α → String) : Option α → String
  | none => "None"
  | some value => "Some(" ++ describe value ++ ")"

def describeList {α : Type} (describe : α → String) (values : List α) : String :=
  "[" ++ String.intercalate ", " (values.map describe) ++ "]"

/-- All arguments on one line, for a log. -/
def Arguments.describe (args : Arguments) : String :=
  let fields := [
    ("system", toString args.system),
    ("session", toString args.session),
    ("name", describeOption Text.Quoted.text args.name),
    ("target", targetName args.target),
    ("filter", describeList resultClassName args.filter),
    ("files", describeList Text.Quoted.text args.files),
    ("log_format", describeOption Log.Format.name args.logFormat),
    ("debug", toString args.debug),
    ("generate_completions", describeOption Shell.name args.completions),
    ("generate_manpage", toString args.manPage)]
  "Args \x7b " ++ String.intercalate ", " (fields.map fun (name, value) ↦ name ++ ": " ++ value) ++
    " \x7d"

end BusReplay.CommandLine
