import BusReplay.Input.Source
import BusReplay.Reproducer
import BusReplay.Run.Execution

/-!
# One source

Every line of a source is dealt with on its own: a command is written, followed by a newline; an
error is reported with the name of the source and the number of the line; a filtered or blank
line leaves no trace on either stream. What is done for a source is the concatenation of what is
done for its lines.
-/

namespace BusReplay

/-- Line counts of a source or of a whole run. -/
structure Stats where
  lines : Nat
  emitted : Nat
  filtered : Nat
  rejected : Nat
  deriving DecidableEq, Repr

namespace Stats

def zero : Stats := ⟨0, 0, 0, 0⟩

def add (a b : Stats) : Stats :=
  ⟨a.lines + b.lines, a.emitted + b.emitted, a.filtered + b.filtered, a.rejected + b.rejected⟩

def sum (all : List Stats) : Stats := all.foldl add zero

def ofOutcome : Except RunError Outcome → Stats
  | .ok (.command _) => ⟨1, 1, 0, 0⟩
  | .ok .filtered => ⟨1, 0, 1, 0⟩
  | .ok .blank => ⟨1, 0, 0, 0⟩
  | .error _ => ⟨1, 0, 0, 1⟩

def logFields (stats : Stats) : List (String × Log.Value) :=
  [("lines", .count stats.lines), ("emitted", .count stats.emitted),
    ("filtered", .count stats.filtered), ("rejected", .count stats.rejected)]

end Stats

structure LineContext where
  reproducer : Reproducer
  /-- The name of the program in diagnostics. -/
  program : String
  /-- The name of the source in diagnostics. -/
  source : String
  busName : String
  deriving DecidableEq, Repr

namespace LineContext

def outcome (ctx : LineContext) (line : String) : Except RunError Outcome :=
  ctx.reproducer.reproduce line ctx.busName

def diagnostic (ctx : LineContext) (number : Nat) (error : RunError) : String :=
  ctx.program ++ ": " ++ ctx.source ++ ":" ++ toString number ++ ": " ++ error.message

def steps (ctx : LineContext) (number : Nat) (line : String) : List Step :=
  match ctx.outcome line with
  | .ok (.command text) => [.write text, .write "\n"]
  | .ok .filtered =>
    [.log ⟨.reproduction, .trace, "line filtered out", [("result", .quoted (resultLabel line))]⟩]
  | .ok .blank => []
  | .error e =>
    [.report (ctx.diagnostic number e),
      .log ⟨.run, .debug, "record skipped",
        [("line", .shown (.ofList (Text.trimEnd line.toList))), ("error", .shown e.message)]⟩]

/-- What is done about the lines of a source, the first of which has the given number. -/
def allSteps (ctx : LineContext) (lines : List String) (first : Nat) : List Step :=
  (lines.zipIdx first).flatMap fun (line, number) ↦ ctx.steps number line

def allStats (ctx : LineContext) (lines : List String) : Stats :=
  Stats.sum (lines.map fun line ↦ Stats.ofOutcome (ctx.outcome line))

end LineContext

/-- What is done about a source, and what comes of it if the output takes every write. -/
structure SourceRun where
  steps : List Step
  outcome : Except RunError Stats
  deriving Repr

namespace SourceRun

def failed (error : RunError) : SourceRun := ⟨[], .error error⟩

def ofStream (ctx : LineContext) (stream : Stream) : SourceRun where
  steps := ctx.allSteps stream.lines 1
  outcome :=
    match stream.failure with
    | none => .ok (ctx.allStats stream.lines)
    | some e => .error (.source ctx.source e)

end SourceRun

structure SourceContext where
  reproducer : Reproducer
  program : String
  /-- The bus name of the calls on standard input. -/
  stdinName : Option String
  files : FileSystem

namespace SourceContext

/-- Open a source. Standard input is open already. -/
def openSource (ctx : SourceContext) (stdin : Stream) : Source → Except RunError Stream
  | .stdin => .ok stdin
  | .file path => (ctx.files.openFile path).mapError (.source path)

/-- Process a source. The name of the bus is settled before the source is opened. -/
def run (ctx : SourceContext) (stdin : Stream) (source : Source) : SourceRun :=
  match source.busName ctx.stdinName with
  | .error e => .failed e
  | .ok busName =>
    let start := Step.log ⟨.run, .debug, "processing source",
      [("source", .shown source.displayName), ("bus_name", .shown busName)]⟩
    match ctx.openSource stdin source with
    | .error e => ⟨[start], .error e⟩
    | .ok stream =>
      let run := SourceRun.ofStream
        ⟨ctx.reproducer, ctx.program, source.displayName, busName⟩ stream
      { run with steps := start :: run.steps }

end SourceContext

namespace SourceRun

def execute (run : SourceRun) (sink : Sink) : List Effect × Except RunError Stats :=
  let execution := Execution.ofSteps sink run.steps
  match execution.failure with
  | some e => (execution.effects, .error (.io e))
  | none => (execution.effects, run.outcome)

end SourceRun

end BusReplay
