import BusReplay.CommandLine.Defaults
import BusReplay.CommandLine.Parser
import BusReplay.Config
import BusReplay.Console
import BusReplay.Run.Program

/-!
# The whole program

A run loads the configuration, puts the default options in front of the command line, reads that,
and does what it asks for. A broken configuration is reported and otherwise ignored. A wrong
command line, and standard input without a bus name, end the run before any source is opened.
-/

namespace BusReplay

open CommandLine

namespace World

/-- The name that the program has in its diagnostics. -/
def program (world : World) : String :=
  match world.commandLine.head?.bind fun called ↦ Path.fileStem? called.toList with
  | some name => .ofList name
  | none => defaultProgram

def console (world : World) : Console :=
  ⟨world.terminal, (world.environment Log.noColorVariable).isNone, world.program⟩

/-- The configuration, and what is said about it. -/
def config (world : World) : Config × List Effect :=
  match Config.load world.files (Config.directory world.environment world.accountHome) with
  | .ok config => (config, [])
  | .error e =>
    (.empty, [.diagnostic (world.console.warning ("Failed to load config: " ++ e.message))])

def defaults (world : World) : Defaults := .ofEntries world.config.1.defaultOptions

/-- What is said about the default options that are set aside. -/
def defaultsNotice (world : World) : List Effect :=
  if world.defaults.positional.isEmpty then []
  else [.diagnostic (world.console.warning world.defaults.positionalWarning),
    .diagnostic Defaults.positionalHint]

def mergedCommandLine (world : World) : List String := world.defaults.merge world.commandLine

/-- Write a text that is not made of commands. -/
def writeText (world : World) (text : String) : Execution :=
  .ofSteps world.stdout [.write text]

/-- Answer a command line that gives no arguments to run with. -/
def answer (world : World) (commandLine : List String) (failure : Failure) : Report :=
  match failure with
  | .help full =>
    ⟨(world.writeText (helpText full (usageName commandLine))).effects, .success, .off⟩
  | .version => ⟨(world.writeText versionText).effects, .success, .off⟩
  | _ => ⟨[.diagnostic (failure.message .written)], .usage, .off⟩

/-- Write a generated text. A write that fails ends the run with a complaint. -/
def generate (world : World) (text : String) (complaint : IoError → String)
    (failed : ExitStatus) : Report :=
  let execution := world.writeText text
  match execution.failure with
  | none => ⟨execution.effects, .success, .off⟩
  | some e => ⟨execution.effects ++ [.diagnostic (complaint e)], failed, .off⟩

def logging (world : World) (args : Arguments) : Log.Settings :=
  .ofRun world.environment (args.logFormat.getD .text) args.debug

def perform (world : World) (args : Arguments) : Report :=
  match args.task with
  | .completions shell =>
    world.generate (world.artifacts.completions shell) world.artifacts.complaint .aborted
  | .manPage =>
    world.generate world.artifacts.manPage (fun e ↦ fatalText world.program (.io e)) .error
  | .refuse =>
    ⟨[.diagnostic (usageLine defaultProgram),
      .diagnostic (world.program ++ ": " ++ RunError.missingStdinName.message)], .usage,
      world.logging args⟩
  | .replay =>
    let (effects, status) := args.run world.program world
    ⟨effects, status, world.logging args⟩

def run (world : World) : Report :=
  let report := match CommandLine.parse world.mergedCommandLine with
    | .ok args => world.perform args
    | .error failure => world.answer world.mergedCommandLine failure
  report.after (world.config.2 ++ world.defaultsNotice)

/-- The sources that a run processes, in order. -/
def sources (world : World) : List Source :=
  match CommandLine.parse world.mergedCommandLine with
  | .ok args => if args.task = .replay then args.sources else []
  | .error _ => []

end World

end BusReplay
