import BusReplay.CommandLine.Arguments
import BusReplay.Profile.Tools
import BusReplay.Run.SourceRun
import BusReplay.Run.World

/-!
# A run over all sources

The sources are processed in the order of the command line. A source that fails is reported, and
the run goes on; a write that fails ends the run. When the reader of the output has gone, that is
the end of the run and no error. Standard input can be read once.
-/

namespace BusReplay

structure Plan where
  steps : List Step
  /-- The counts of all sources that did not fail. -/
  totals : Stats
  deriving Repr

namespace SourceContext

def stdinAfter (ctx : SourceContext) (stdin : Stream) (source : Source) : Stream :=
  match source, source.busName ctx.stdinName with
  | .stdin, .ok _ => stdin.drained
  | _, _ => stdin

def runAll (ctx : SourceContext) (stdin : Stream) : List Source → List (Source × SourceRun)
  | [] => []
  | source :: rest =>
    (source, ctx.run stdin source) :: ctx.runAll (ctx.stdinAfter stdin source) rest

/-- What is done once a source has been processed: its counts are logged, or its failure is
reported and raises the status. -/
def conclusion (ctx : SourceContext) (source : Source) (outcome : Except RunError Stats) :
    List Step :=
  match outcome with
  | .ok stats => [.log ⟨.run, .info, "source done",
      ("source", .shown source.displayName) :: stats.logFields⟩]
  | .error e => [.report (ctx.program ++ ": " ++ e.message), .raise .error]

def plan (ctx : SourceContext) (stdin : Stream) (sources : List Source) : Plan :=
  let runs := ctx.runAll stdin sources
  { steps := runs.flatMap fun (source, run) ↦ run.steps ++ ctx.conclusion source run.outcome
    totals := Stats.sum (runs.filterMap fun (_, run) ↦ run.outcome.toOption) }

end SourceContext

structure Report where
  effects : List Effect
  status : ExitStatus
  /-- Which log events are shown. -/
  logging : Log.Settings
  deriving Repr

namespace Report

def after (report : Report) (effects : List Effect) : Report :=
  { report with effects := effects ++ report.effects }

def stdout (report : Report) : String := stdoutText report.effects

def stderr (report : Report) (time : String) : String :=
  stderrText report.logging time report.effects

end Report

/-- The error that ends a run. -/
def fatalText (program : String) (error : RunError) : String :=
  program ++ ": Error: " ++ error.message

/-- What follows the steps of a run: the end of it is logged, or the failure of a write is dealt
with. -/
def Execution.conclude (execution : Execution) (program tool : String) (totals : Stats) :
    List Effect × ExitStatus :=
  match execution.failure with
  | none =>
    (execution.effects ++ [.event ⟨.run, .info, "run complete",
      ("target_tool", .quoted tool) :: totals.logFields⟩], execution.status)
  | some .brokenPipe =>
    (execution.effects ++ [.event ⟨.run, .debug, "stdout closed, stopping", []⟩], execution.status)
  | some e => (execution.effects ++ [.diagnostic (fatalText program (.io e))], .error)

namespace CommandLine.Arguments

def reproducer (args : Arguments) : Reproducer :=
  ⟨args.target.profile, args.busScope, args.resultFilter⟩

def sourceContext (args : Arguments) (program : String) (files : FileSystem) : SourceContext :=
  ⟨args.reproducer, program, args.name, files⟩

def plan (args : Arguments) (program : String) (files : FileSystem) (stdin : Stream) : Plan :=
  (args.sourceContext program files).plan stdin args.sources

/-- The arguments are logged when debugging is asked for. -/
def announcement (args : Arguments) : List Effect :=
  if args.debug then
    [.event ⟨.run, .debug, "parsed arguments", [("args", .shown args.describe)]⟩]
  else []

/-- Process every source, writing commands to the output. -/
def run (args : Arguments) (program : String) (world : World) : List Effect × ExitStatus :=
  let plan := args.plan program world.files world.stdin
  let (effects, status) := (Execution.ofSteps world.stdout plan.steps).conclude program
    args.target.tool plan.totals
  (args.announcement ++ effects, status)

end CommandLine.Arguments

end BusReplay
