import BusReplay.Proofs.Run.FirstCommand
import BusReplay.Proofs.Run.Misuse

/-!
# A run whose output fails

An output that refuses every write leaves a run as it is until the first line that becomes a
command. There the run ends: what it has done is what it does with a working output up to the first
write, and its last word depends on the failure. Without such a line the run cannot tell such an
output from a working one. Failures of sources are dealt with as ever, whatever their cause.
-/

namespace BusReplay

namespace Execution

/-- Without a write all is done whatever the output is. -/
theorem ofSteps_of_quiet {steps : List Step} (hquiet : Step.AreQuiet steps) (sink : Sink) :
    ofSteps sink steps =
      ⟨Step.effects steps, (Step.raised steps).foldl ExitStatus.worst .success, sink, none⟩ := by
  have hsteps := resume_append_of_quiet hquiet [] .success sink []
  rw [List.append_nil, List.append_nil] at hsteps
  rw [ofSteps, hsteps, resume, List.reverse_reverse]

/-- The first write is refused, and nothing behind it is done. -/
theorem ofSteps_of_broken {front : List Step} (hquiet : Step.AreQuiet front) {text : String}
    (htext : text ≠ "") (rest : List Step) (fault : IoError) :
    ofSteps (.broken fault) (front ++ .write text :: rest) =
      ⟨Step.effects front, (Step.raised front).foldl ExitStatus.worst .success, .broken fault,
        some fault⟩ := by
  have hwrite : (Sink.broken fault).write text = .error fault := by
    have hroom : ¬ text.utf8ByteSize ≤ 0 := by simpa using htext
    simp [Sink.write, Sink.broken, hroom]
  rw [ofSteps, resume_append_of_quiet hquiet, resume, hwrite, List.append_nil, List.reverse_reverse]

end Execution

/-- Quiet steps leave the output alone. -/
theorem Step.outputText?_of_quiet {steps : List Step} (hquiet : AreQuiet steps) :
    ∀ effect ∈ effects steps, effect.outputText? = none := by
  intro effect heffect
  obtain ⟨step, hstep, hsome⟩ := List.mem_filterMap.1 heffect
  have hwrite := hquiet step hstep
  cases step with
  | write text => cases hwrite
  | report text | log event =>
    obtain rfl := Option.some.inj hsome
    rfl
  | raise status => cases hsome

/-! ## The end of a run -/

/-- What is said on standard error when a write is refused. -/
def refusalNotice (program : String) (fault : IoError) : List String :=
  if fault = .brokenPipe then [] else [program ++ ": Error: IO error: " ++ fault.message]

/-- The last word of a run whose output has refused a write. -/
def refusal (program : String) (fault : IoError) : Effect :=
  if fault = .brokenPipe then .event ⟨.run, .debug, "stdout closed, stopping", []⟩
  else .diagnostic (fatalText program (.io fault))

theorem fatalText_io (program : String) (fault : IoError) :
    fatalText program (.io fault) = program ++ ": Error: IO error: " ++ fault.message := by
  have htext : fatalText program (.io fault) =
      program ++ ": Error: " ++ ("IO error: " ++ fault.message) := rfl
  rw [htext]
  apply String.toList_injective
  simp

theorem diagnostics_refusal (program : String) (fault : IoError) :
    diagnostics [refusal program fault] = refusalNotice program fault := by
  unfold refusal refusalNotice
  split
  · rfl
  · rw [← fatalText_io]
    rfl

theorem outputText?_refusal (program : String) (fault : IoError) :
    (refusal program fault).outputText? = none := by
  unfold refusal
  split <;> rfl

/-- A write that fails is an error, unless the reader of the output has gone. -/
theorem Execution.conclude_of_failure {execution : Execution} {fault : IoError}
    (h : execution.failure = some fault) (program tool : String) (totals : Stats) :
    execution.conclude program tool totals =
      (execution.effects ++ [refusal program fault],
        if fault = .brokenPipe then execution.status else .error) := by
  unfold conclude
  rw [h]
  cases fault <;> rfl

namespace CommandLine.Arguments

variable {args : Arguments} {program : String} {world : World} {fault : IoError}

/-- Without a command the output is not touched. -/
theorem run_of_quiet
    (hquiet : Step.AreQuiet (args.plan program world.files world.stdin).steps) :
    args.run program world = args.run program { world with stdout := .unlimited } := by
  unfold run
  dsimp only
  rw [Execution.ofSteps_of_quiet hquiet, Execution.ofSteps_of_quiet hquiet]
  rfl

/-- A broken output ends a run at the first command. -/
theorem run_of_broken {front rest : List Step} {command : String}
    (hstdout : world.stdout = .broken fault)
    (hsteps : (args.plan program world.files world.stdin).steps = front ++ .write command :: rest)
    (hcommand : command ≠ "") (hfront : Step.AreQuiet front) :
    args.run program world =
      (args.announcement ++ (Step.effects front ++ [refusal program fault]),
        if fault = .brokenPipe then (Step.raised front).foldl ExitStatus.worst .success
        else .error) := by
  unfold run
  dsimp only
  rw [hstdout, hsteps, Execution.ofSteps_of_broken hfront hcommand,
    Execution.conclude_of_failure rfl]

/-- With a working output the run goes on behind the same effects. -/
theorem exists_run_of_unlimited {front rest : List Step} {command : String}
    (hsteps : (args.plan program world.files world.stdin).steps = front ++ .write command :: rest) :
    ∃ more status, args.run program { world with stdout := .unlimited } =
      (args.announcement ++ (Step.effects front ++ .output command :: more), status) := by
  rw [args.run_eq_of_unlimited program rfl]
  dsimp only
  rw [hsteps, Step.effects_append, Step.effects_cons, List.append_assoc]
  exact ⟨_, _, rfl⟩

end CommandLine.Arguments

namespace World

open CommandLine

variable {world : World} {args : Arguments}

/-- What a run does before its sources. -/
def preliminaries (world : World) (args : Arguments) : List Effect :=
  world.notices ++ args.announcement

theorem run_of_replay (hparse : parse world.mergedCommandLine = .ok args)
    (htask : args.task = .replay) {effects : List Effect} {status : ExitStatus}
    (hrun : args.run world.program world = (args.announcement ++ effects, status)) :
    world.run = ⟨world.preliminaries args ++ effects, status, world.logging args⟩ := by
  rw [run_of_parse_eq_ok hparse, perform, htask, preliminaries, List.append_assoc]
  dsimp only
  rw [hrun]
  rfl

theorem outputText?_of_mem_preliminaries {effect : Effect}
    (h : effect ∈ world.preliminaries args) : effect.outputText? = none := by
  rcases List.mem_append.1 h with hnotice | hevent
  · exact outputText?_of_mem_notices hnotice
  · have hevent := Arguments.isEvent_of_mem_announcement hevent
    cases effect with
    | event event => rfl
    | _ => cases hevent

theorem stdoutText_preliminaries_append (world : World) (args : Arguments)
    (effects : List Effect) :
    stdoutText (world.preliminaries args ++ effects) = stdoutText effects := by
  rw [stdoutText_append, stdoutText_eq_empty fun _ ↦ outputText?_of_mem_preliminaries,
    String.empty_append]

theorem diagnostics_preliminaries_append (world : World) (args : Arguments)
    (effects : List Effect) :
    diagnostics (world.preliminaries args ++ effects) =
      diagnostics world.notices ++ diagnostics effects := by
  rw [diagnostics_append, preliminaries, diagnostics_append,
    diagnostics_of_events fun _ ↦ Arguments.isEvent_of_mem_announcement, List.append_nil]

/-- A run without a command is the same whatever the output is. -/
theorem run_of_quiet {results : List SourceResult}
    (hparse : parse world.mergedCommandLine = .ok args) (htask : args.task = .replay)
    (hquiet : Step.AreQuiet (args.plan world.program world.files world.stdin).steps)
    (htells : SourceContext.Tells world.program results
      (args.plan world.program world.files world.stdin).steps) :
    world.run = ({ world with stdout := .unlimited } : World).run ∧ world.run.stdout = "" ∧
      diagnostics world.run.effects = diagnostics world.notices ++
        results.flatMap (SourceResult.notices world.program) ∧
      world.run.status =
        if ∃ result ∈ results, result.failure ≠ none then .error else .success := by
  have hworking := args.run_eq_of_unlimited world.program
    (rfl : ({ world with stdout := .unlimited } : World).stdout.room = none)
  have hrun := run_of_replay hparse htask ((Arguments.run_of_quiet hquiet).trans hworking)
  refine ⟨?_, ?_, ?_, ?_⟩
  · rw [hrun]
    exact (@run_of_replay { world with stdout := .unlimited } args hparse htask _ _ hworking).symm
  · rw [Report.stdout, hrun, stdoutText_preliminaries_append, stdoutText_append,
      stdoutText_eq_empty (Step.outputText?_of_quiet hquiet)]
    rfl
  · rw [hrun, diagnostics_preliminaries_append, diagnostics_append, htells.diagnostics]
    exact congrArg (diagnostics world.notices ++ ·) (List.append_nil _)
  · rw [hrun]
    exact htells.foldl_worst

/-- A run whose first command is refused. -/
theorem run_of_refused {reached : List SourceResult} {fault : IoError} {front rest : List Step}
    {command : String} (hparse : parse world.mergedCommandLine = .ok args)
    (htask : args.task = .replay) (hstdout : world.stdout = .broken fault)
    (hplan : (args.plan world.program world.files world.stdin).steps =
      front ++ .write command :: rest)
    (hcommand : command ≠ "") (hfront : Step.AreQuiet front)
    (htells : SourceContext.Tells world.program reached front) :
    world.run.effects =
        ({ world with stdout := .unlimited } : World).run.effects.takeWhile
          (fun effect ↦ effect.outputText?.isNone) ++ [refusal world.program fault] ∧
      world.run.stdout = "" ∧
      diagnostics world.run.effects = diagnostics world.notices ++
        (reached.flatMap (SourceResult.notices world.program) ++
          refusalNotice world.program fault) ∧
      world.run.status =
        if fault = .brokenPipe ∧ ∀ result ∈ reached, result.failure = none then .success
        else .error := by
  have hrun := run_of_replay hparse htask
    (Arguments.run_of_broken hstdout hplan hcommand hfront)
  refine ⟨?_, ?_, ?_, ?_⟩
  · obtain ⟨more, status, hmore⟩ := Arguments.exists_run_of_unlimited hplan
    have hworking : ({ world with stdout := .unlimited } : World).run.effects =
        world.preliminaries args ++ Step.effects front ++ .output command :: more := by
      rw [@run_of_replay { world with stdout := .unlimited } args hparse htask _ _ hmore]
      exact (List.append_assoc _ _ _).symm
    have hdone : ∀ effect ∈ world.preliminaries args ++ Step.effects front,
        effect.outputText?.isNone = true := by
      intro effect heffect
      rw [Option.isNone_iff_eq_none]
      rcases List.mem_append.1 heffect with heffect | heffect
      · exact outputText?_of_mem_preliminaries heffect
      · exact Step.outputText?_of_quiet hfront effect heffect
    rw [hrun, hworking, List.takeWhile_append_of_pos hdone,
      List.takeWhile_cons_of_neg (by simp [Effect.outputText?]), List.append_nil]
    exact (List.append_assoc _ _ _).symm
  · rw [Report.stdout, hrun, stdoutText_preliminaries_append, stdoutText_append,
      stdoutText_eq_empty (Step.outputText?_of_quiet hfront),
      stdoutText_eq_empty (by simp [outputText?_refusal])]
    rfl
  · rw [hrun, diagnostics_preliminaries_append, diagnostics_append, htells.diagnostics,
      diagnostics_refusal]
  · rw [hrun, htells.foldl_worst]
    by_cases hpipe : fault = .brokenPipe <;>
      by_cases hfailed : ∃ result ∈ reached, result.failure ≠ none
    all_goals simp_all

/-- If every write fails, a run without a command is the run with a working output, and any other
run ends at its first command: what it has done is what the run with a working output has done up
to its first write, and its last word is about the failure, which is an error unless the reader of
the output has gone. Sources that have failed before count as ever. No later source is opened. -/
theorem run_of_broken_output {fault : IoError}
    (hparse : parse world.mergedCommandLine = .ok args) (htask : args.task = .replay)
    (hstdout : world.stdout = .broken fault) :
    ∃ results,
      (args.sourceContext world.program world.files).YieldsAll world.stdin args.sources results ∧
      (∀ other, (args.sourceContext world.program world.files).YieldsAll world.stdin args.sources
        other → other = results) ∧
      ((∀ result ∈ results, result.IsSilent) ∨
        ∃ reached, SourceResult.UpToCommand results reached) ∧
      ((∀ result ∈ results, result.IsSilent) →
        world.run = ({ world with stdout := .unlimited } : World).run ∧
        world.run.stdout = "" ∧
        diagnostics world.run.effects = diagnostics world.notices ++
          results.flatMap (SourceResult.notices world.program) ∧
        world.run.status =
          if ∃ result ∈ results, result.failure ≠ none then .error else .success) ∧
      ∀ reached, SourceResult.UpToCommand results reached →
        world.run.effects =
          ({ world with stdout := .unlimited } : World).run.effects.takeWhile
            (fun effect ↦ effect.outputText?.isNone) ++ [refusal world.program fault] ∧
        world.run.stdout = "" ∧
        diagnostics world.run.effects = diagnostics world.notices ++
          (reached.flatMap (SourceResult.notices world.program) ++
            refusalNotice world.program fault) ∧
        world.run.status =
          (if fault = .brokenPipe ∧ ∀ result ∈ reached, result.failure = none then .success
          else .error) ∧
        ∀ files : FileSystem, Config.load files world.configDirectory =
            Config.load world.files world.configDirectory →
          (∀ result ∈ reached, ∀ path, result.source = .file path →
            files.openFile path = world.files.openFile path) →
          ({ world with files := files } : World).run = world.run := by
  obtain ⟨results, parts, hyields, hall, hsteps⟩ := SourceContext.exists_enacts
    (args.sourceContext world.program world.files) world.stdin args.sources
  refine ⟨results, hyields, fun other ↦ hyields.unique,
    SourceResult.isSilent_or_upToCommand results, fun hsilent ↦ ?_, fun reached hreached ↦ ?_⟩
  · have hquiet : Step.AreQuiet (args.plan world.program world.files world.stdin).steps := by
      rw [Arguments.plan, hsteps]
      exact SourceContext.areQuiet_flatten hall hsilent
    have htells : SourceContext.Tells world.program results
        (args.plan world.program world.files world.stdin).steps := by
      rw [Arguments.plan, hsteps]
      exact SourceContext.Tells.flatten hall
    exact run_of_quiet hparse htask hquiet htells
  · obtain ⟨front, command, hcommand, hfront, htells, hrest⟩ :=
      SourceContext.exists_front_of_upToCommand hyields hreached
    obtain ⟨rest, hplan⟩ := hrest world.files fun _ _ _ _ ↦ rfl
    obtain ⟨heffects, hempty, hdiagnostics, hstatus⟩ :=
      run_of_refused hparse htask hstdout hplan hcommand hfront htells
    refine ⟨heffects, hempty, hdiagnostics, hstatus, fun files hconfig hfiles ↦ ?_⟩
    let other : World := { world with files := files }
    have hmerged : other.mergedCommandLine = world.mergedCommandLine :=
      mergedCommandLine_congr hconfig
    have hnotices : other.notices = world.notices := notices_congr hconfig
    obtain ⟨more, hother⟩ := hrest files hfiles
    have hrun := run_of_replay hparse htask (Arguments.run_of_broken hstdout hplan hcommand hfront)
    have hrunOther := @run_of_replay other args (hmerged ▸ hparse) htask _ _
      (@Arguments.run_of_broken args world.program other _ _ _ _ hstdout hother hcommand hfront)
    rw [hrun, hrunOther, preliminaries, hnotices]
    rfl

/-- A pipe that breaks while a log is read is a failure of that log. The pipe that breaks when the
command of the next log is written ends the run without a word, and with the status it had. -/
theorem run_of_broken_output_pipe :
    ∃ (world : World) (args : Arguments) (results reached : List SourceResult),
      world.commandLine = ["dbus-reprogen", "--system", "half", "log", "later"] ∧
      parse world.mergedCommandLine = .ok args ∧ args.task = .replay ∧
      world.stdout = .broken .brokenPipe ∧
      (args.sourceContext world.program world.files).YieldsAll world.stdin args.sources results ∧
      SourceResult.UpToCommand results reached ∧
      reached.flatMap (SourceResult.notices world.program) =
        ["dbus-reprogen: half:1: Parse error: expected at least 4 fields " ++
            "(interface;path;method;result), found 2",
          "dbus-reprogen: half: Broken pipe (os error 32)"] ∧
      diagnostics world.run.effects = reached.flatMap (SourceResult.notices world.program) ∧
      world.run.stdout = "" ∧ world.run.status = .error := by
  let openFile (path : String) : Except IoError Stream :=
    if path = "half" then .ok ⟨"x;Crash\na.b".toUTF8.toList, some .brokenPipe⟩
    else if path = "log" then
      .ok (.ofBytes "a.b;/p;M;Success\na.b;/p;M;Crash\ny;Crash\n".toUTF8.toList)
    else if path = "later" then .ok (.ofBytes "z;Crash\n".toUTF8.toList)
    else .error .notFound
  let world : World := ⟨["dbus-reprogen", "--system", "half", "log", "later"], fun _ ↦ none, none,
    ⟨fun _ ↦ false, openFile⟩, .ofBytes [], .broken .brokenPipe, false, .plain⟩
  let args : Arguments := ⟨true, false, none, .dbusSend, [.crash], ["half", "log", "later"], none,
    false, none, false⟩
  have hparse : parse world.mergedCommandLine = .ok args := by decide +kernel
  obtain ⟨results, hyields, -, hcases, hsilent, hrefused⟩ :=
    @run_of_broken_output world args .brokenPipe hparse rfl rfl
  have hwritten : ({ world with stdout := .unlimited } : World).run.stdout ≠ "" := by
    decide +kernel
  obtain ⟨reached, hreached⟩ := hcases.resolve_left fun h ↦ by
    obtain ⟨hsame, hempty, -⟩ := hsilent h
    exact hwritten (hsame ▸ hempty)
  obtain ⟨-, hempty, hdiagnostics, -⟩ := hrefused reached hreached
  have hnotices : diagnostics world.notices = [] := by decide +kernel
  rw [hnotices, List.nil_append] at hdiagnostics
  have hreports : diagnostics world.run.effects =
      reached.flatMap (SourceResult.notices world.program) :=
    hdiagnostics.trans (List.append_nil _)
  exact ⟨world, args, results, reached, rfl, hparse, rfl, rfl, hyields, hreached,
    hreports.symm.trans (by decide +kernel), hreports, hempty, by decide +kernel⟩

end World

end BusReplay
