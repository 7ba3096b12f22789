import BusReplay.Proofs.Run.Misuse

/-!
# Runs that log differently

Two arguments and one variable of the environment decide what is logged and in which form. Log
steps stand among the other steps of a plan and take part in nothing: what a plan does apart from
logging is what is left of it without its log steps, wherever its execution ends. So two runs that
differ in their logging only write the same, end in the same status and say the same on standard
error, each with log lines of its own in between.
-/

namespace BusReplay

/-! ## Plans without their log steps -/

/-- What has been done apart from logging. -/
def unlogged (effects : List Effect) : List Effect := effects.filter fun effect ↦ !effect.isEvent

theorem unlogged_append (effects others : List Effect) :
    unlogged (effects ++ others) = unlogged effects ++ unlogged others :=
  List.filter_append effects others

theorem unlogged_of_events {effects : List Effect}
    (h : ∀ effect ∈ effects, effect.isEvent = true) : unlogged effects = [] :=
  List.filter_eq_nil_iff.2 fun effect heffect ↦ by simp [h effect heffect]

def Step.isLog : Step → Bool
  | log _ => true
  | _ => false

def Step.unlogged (steps : List Step) : List Step := steps.filter fun step ↦ !step.isLog

namespace Execution

def unlogged (execution : Execution) : Execution :=
  { execution with effects := BusReplay.unlogged execution.effects }

/-- Log steps change neither what else is done nor where the execution ends. -/
theorem unlogged_resume (done : List Effect) (status : ExitStatus) (sink : Sink)
    (steps : List Step) :
    (resume done status sink steps).unlogged =
      resume (BusReplay.unlogged done) status sink (Step.unlogged steps) := by
  have hreverse (done : List Effect) :
      BusReplay.unlogged done.reverse = (BusReplay.unlogged done).reverse :=
    List.filter_reverse
  induction steps generalizing done status sink with
  | nil => rw [resume, unlogged, hreverse, Step.unlogged, List.filter_nil, resume]
  | cons step steps ih =>
    cases step with
    | write text =>
      rw [Step.unlogged, List.filter_cons_of_pos rfl, resume, resume]
      cases sink.write text with
      | ok sink => exact ih (.output text :: done) status sink
      | error e =>
        dsimp only
        rw [unlogged, hreverse]
    | report text => exact ih (.diagnostic text :: done) status sink
    | log event => exact ih (.event event :: done) status sink
    | raise other => exact ih done (status.worst other) sink

theorem unlogged_ofSteps (sink : Sink) (steps : List Step) :
    (ofSteps sink steps).unlogged = ofSteps sink (Step.unlogged steps) :=
  unlogged_resume [] .success sink steps

/-- The tool and the counts are told to the log only. -/
theorem unlogged_conclude (execution : Execution) (program tool otherTool : String)
    (totals otherTotals : Stats) :
    BusReplay.unlogged (execution.conclude program tool totals).1 =
        BusReplay.unlogged (execution.unlogged.conclude program otherTool otherTotals).1 ∧
      (execution.conclude program tool totals).2 =
        (execution.unlogged.conclude program otherTool otherTotals).2 := by
  have htwice : BusReplay.unlogged (BusReplay.unlogged execution.effects) =
      BusReplay.unlogged execution.effects := by
    simp [BusReplay.unlogged]
  unfold conclude unlogged
  dsimp only
  cases execution.failure with
  | none =>
    rw [unlogged_append, unlogged_append, htwice]
    exact ⟨rfl, rfl⟩
  | some e =>
    cases e
    all_goals
      rw [unlogged_append, unlogged_append, htwice]
      exact ⟨rfl, rfl⟩

end Execution

/-! ## Standard error with its log lines -/

theorem stdoutText_unlogged (effects : List Effect) :
    stdoutText (unlogged effects) = stdoutText effects := by
  have houtput : (unlogged effects).filterMap Effect.outputText? =
      effects.filterMap Effect.outputText? := by
    rw [unlogged, List.filterMap_filter]
    apply List.filterMap_congr
    intro effect _
    cases effect <;> rfl
  rw [stdoutText, houtput, stdoutText]

theorem diagnostics_unlogged (effects : List Effect) :
    diagnostics (unlogged effects) = diagnostics effects := by
  rw [diagnostics, unlogged, List.filterMap_filter, diagnostics]
  apply List.filterMap_congr
  intro effect _
  cases effect <;> rfl

def Effect.event? : Effect → Option Log.Event
  | event e => some e
  | _ => none

/-- Messages in their order, and among them the lines of those log events that are shown. -/
inductive Log.Settings.Interleaves (settings : Log.Settings) (time : String) :
    List Log.Event → List String → List String → Prop
  | nil : Interleaves settings time [] [] []
  | message (text : String) {events : List Log.Event} {messages lines : List String}
    (h : Interleaves settings time events messages lines) :
    Interleaves settings time events (text :: messages) (text :: lines)
  | event (event : Log.Event) {events : List Log.Event} {messages lines : List String}
    (h : Interleaves settings time events messages lines) :
    Interleaves settings time (event :: events) messages
      ((settings.line? time event).toList ++ lines)

namespace Report

/-- Standard error holds the messages, with the log lines of the run in between. -/
def Says (report : Report) (time : String) (messages : List String) : Prop :=
  ∃ lines, report.stderr time = String.join (lines.map fun line ↦ line ++ "\n") ∧
    report.logging.Interleaves time (report.effects.filterMap Effect.event?) messages lines

/-- Standard error is made up of the messages and the log lines between them. -/
theorem says_diagnostics (report : Report) (time : String) :
    report.Says time (diagnostics report.effects) := by
  refine ⟨_, rfl, ?_⟩
  unfold diagnostics
  induction report.effects with
  | nil => exact .nil
  | cons effect effects ih =>
    cases effect with
    | output text => exact ih
    | diagnostic text => exact .message text ih
    | event event =>
      have hline : (Effect.event event :: effects).filterMap
          (Effect.stderrLine? report.logging time) =
          (report.logging.line? time event).toList ++
            effects.filterMap (Effect.stderrLine? report.logging time) := by
        rw [List.filterMap_cons, Effect.stderrLine?]
        cases report.logging.line? time event <;> rfl
      rw [hline]
      exact .event event ih

/-- Two reports that differ in their logging only: both streams hold the same, apart from log lines
on standard error, and the status is the same. -/
structure AgreesApartFromLog (report other : Report) : Prop where
  effects : unlogged other.effects = unlogged report.effects
  stdout : other.stdout = report.stdout
  status : other.status = report.status
  diagnostics : diagnostics other.effects = diagnostics report.effects
  stderr (time otherTime : String) : ∃ messages, report.Says time messages ∧
    other.Says otherTime messages

variable {report other : Report}

/-- What is done apart from logging decides about both streams. -/
theorem agreesApartFromLog_of_unlogged
    (heffects : unlogged other.effects = unlogged report.effects)
    (hstatus : other.status = report.status) : report.AgreesApartFromLog other := by
  have hdiagnostics : BusReplay.diagnostics other.effects =
      BusReplay.diagnostics report.effects := by
    rw [← diagnostics_unlogged, heffects, diagnostics_unlogged]
  refine ⟨heffects, ?_, hstatus, hdiagnostics, fun time otherTime ↦ ?_⟩
  · rw [stdout, stdout, ← stdoutText_unlogged, heffects, stdoutText_unlogged]
  · exact ⟨_, report.says_diagnostics time, hdiagnostics ▸ other.says_diagnostics otherTime⟩

theorem AgreesApartFromLog.after (h : report.AgreesApartFromLog other) (effects : List Effect) :
    (report.after effects).AgreesApartFromLog (other.after effects) := by
  apply agreesApartFromLog_of_unlogged
  · rw [Report.after, Report.after, unlogged_append, unlogged_append, h.effects]
  · exact h.status

end Report

/-! ## Two runs -/

namespace CommandLine.Arguments

variable {args other : Arguments}

/-- Arguments that ask for the same, apart from how much is logged and in which form. -/
def AgreesApartFromLog (args other : Arguments) : Prop :=
  other = { args with debug := other.debug, logFormat := other.logFormat }

theorem AgreesApartFromLog.task_eq (h : args.AgreesApartFromLog other) :
    other.task = args.task := by
  rw [h]
  rfl

theorem AgreesApartFromLog.plan_eq (h : args.AgreesApartFromLog other) (program : String)
    (files : FileSystem) (stdin : Stream) :
    other.plan program files stdin = args.plan program files stdin := by
  rw [h]
  rfl

/-- Runs whose plans differ in log steps only do the same, apart from logging. -/
theorem run_of_unlogged {program : String} {world otherWorld : World}
    (hsteps : Step.unlogged (other.plan program otherWorld.files otherWorld.stdin).steps =
      Step.unlogged (args.plan program world.files world.stdin).steps)
    (hstdout : otherWorld.stdout = world.stdout) :
    unlogged (other.run program otherWorld).1 = unlogged (args.run program world).1 ∧
      (other.run program otherWorld).2 = (args.run program world).2 := by
  let plan := args.plan program world.files world.stdin
  let otherPlan := other.plan program otherWorld.files otherWorld.stdin
  let execution := Execution.ofSteps world.stdout plan.steps
  let otherExecution := Execution.ofSteps otherWorld.stdout otherPlan.steps
  have hexecution : otherExecution.unlogged = execution.unlogged := by
    rw [Execution.unlogged_ofSteps, Execution.unlogged_ofSteps, hsteps, hstdout]
  obtain ⟨heffects, hstatus⟩ := execution.unlogged_conclude program args.target.tool
    args.target.tool plan.totals plan.totals
  obtain ⟨hothers, hotherStatus⟩ := otherExecution.unlogged_conclude program other.target.tool
    args.target.tool otherPlan.totals plan.totals
  have hannouncement (args : Arguments) : unlogged args.announcement = [] :=
    unlogged_of_events fun _ ↦ isEvent_of_mem_announcement
  unfold run
  constructor
  · rw [unlogged_append, unlogged_append, hannouncement, hannouncement, List.nil_append,
      List.nil_append]
    exact hothers.trans (hexecution ▸ heffects.symm)
  · exact hotherStatus.trans (hexecution ▸ hstatus.symm)

end CommandLine.Arguments

namespace World

open CommandLine

variable {world other : World} {args otherArgs : Arguments}

/-- Worlds in which the program has the same name, the same can be read, and the output takes the
same. The variable that says what is logged may differ. -/
structure AgreesApartFromLog (world other : World) : Prop where
  program : other.program = world.program
  environment (name : String) (hname : name ≠ Log.filterVariable) :
    other.environment name = world.environment name
  accountHome : other.accountHome = world.accountHome
  files : other.files = world.files
  stdin : other.stdin = world.stdin
  stdout : other.stdout = world.stdout
  terminal : other.terminal = world.terminal
  artifacts : other.artifacts = world.artifacts

/-- Process the sources of the arguments, whatever else they ask for. -/
def replay (world : World) (args : Arguments) : Report :=
  ⟨(args.run world.program world).1, (args.run world.program world).2, world.logging args⟩

theorem perform_of_replay (htask : args.task = .replay) :
    world.perform args = world.replay args := by
  rw [perform, htask]
  rfl

/-- The directory of the configuration does not depend on what is logged. -/
theorem AgreesApartFromLog.configDirectory_eq (h : world.AgreesApartFromLog other) :
    other.configDirectory = world.configDirectory := by
  have hdirectory := h.environment Config.directoryVariable (by decide)
  have huser := h.environment "XDG_CONFIG_HOME" (by decide)
  have hhome := h.environment "HOME" (by decide)
  unfold configDirectory Config.directory Config.userDirectory? Config.userDirectory?.fromHome
    Config.homeDirectory?
  rw [hdirectory, huser, hhome, h.accountHome]

theorem AgreesApartFromLog.console_eq (h : world.AgreesApartFromLog other) :
    other.console = world.console := by
  rw [console, console, h.terminal, h.program, h.environment Log.noColorVariable (by decide)]

theorem AgreesApartFromLog.notices_eq (h : world.AgreesApartFromLog other) :
    other.notices = world.notices := by
  have hconfig : other.config = world.config := by
    have hdirectory := h.configDirectory_eq
    unfold configDirectory at hdirectory
    unfold config
    rw [hdirectory, h.files, h.console_eq]
  unfold notices defaultsNotice defaults
  rw [hconfig, h.console_eq]

/-- Runs over the same sources agree apart from their log. -/
theorem AgreesApartFromLog.replay (h : world.AgreesApartFromLog other)
    (hargs : args.AgreesApartFromLog otherArgs) :
    (world.replay args).AgreesApartFromLog (other.replay otherArgs) := by
  have hsteps : Step.unlogged (otherArgs.plan world.program other.files other.stdin).steps =
      Step.unlogged (args.plan world.program world.files world.stdin).steps := by
    rw [hargs.plan_eq, h.files, h.stdin]
  obtain ⟨heffects, hstatus⟩ := Arguments.run_of_unlogged hsteps h.stdout
  apply Report.agreesApartFromLog_of_unlogged
  · rw [World.replay, h.program]
    exact heffects
  · rw [World.replay, h.program]
    exact hstatus

theorem AgreesApartFromLog.perform (h : world.AgreesApartFromLog other)
    (hargs : args.AgreesApartFromLog otherArgs) :
    (world.perform args).AgreesApartFromLog (other.perform otherArgs) := by
  have hgenerate (text : String) (complaint : IoError → String) (failed : ExitStatus) :
      other.generate text complaint failed = world.generate text complaint failed := by
    unfold generate writeText
    rw [h.stdout]
  cases htask : args.task with
  | replay =>
    rw [perform_of_replay htask, perform_of_replay (hargs.task_eq.trans htask)]
    exact h.replay hargs
  | completions shell | manPage | refuse =>
    unfold World.perform
    rw [hargs.task_eq, htask]
    dsimp only
    apply Report.agreesApartFromLog_of_unlogged
    · simp only [hgenerate, h.program, h.artifacts]
    · simp only [hgenerate, h.program, h.artifacts]

/-- What is logged, and in which form, makes no difference to what is written, to the status, and
to what is said on standard error between the log lines. This holds of the sources of any arguments,
and of the whole program, and however the output fails. -/
theorem AgreesApartFromLog.replay_and_run (h : world.AgreesApartFromLog other)
    (hargs : args.AgreesApartFromLog otherArgs) :
    (world.replay args).AgreesApartFromLog (other.replay otherArgs) ∧
      (parse world.mergedCommandLine = .ok args → parse other.mergedCommandLine = .ok otherArgs →
        world.run.AgreesApartFromLog other.run) := by
  refine ⟨h.replay hargs, fun hparse hother ↦ ?_⟩
  rw [run_of_parse_eq_ok hparse, run_of_parse_eq_ok hother, h.notices_eq]
  exact (h.perform hargs).after world.notices

/-- A run that logs nothing, and one that is debugged and logs everything as JSON. The log has a
rejected and a filtered line, and the output is full at the second command. -/
theorem AgreesApartFromLog.replay_and_run_full :
    ∃ world other : World, world.AgreesApartFromLog other ∧
      world.commandLine = ["dbus-reprogen", "--session", "org.x.L"] ∧
      other.commandLine =
        ["dbus-reprogen", "--debug", "--log-format=json", "--session", "org.x.L"] ∧
      world.environment "DBUS_REPROGEN_LOG" = some "off" ∧
      other.environment "DBUS_REPROGEN_LOG" = some "trace" ∧
      world.run.stdout = "dbus-send --session --dest=org.x.L --print-reply / a.b.M \n" ∧
      other.run.stdout = world.run.stdout ∧
      world.run.status = .error ∧ other.run.status = .error ∧
      diagnostics other.run.effects =
        ["dbus-reprogen: org.x.L:2: Parse error: expected at least 4 fields " ++
            "(interface;path;method;result), found 2",
          "dbus-reprogen: Error: IO error: No space left on device (os error 28)"] := by
  let log : Stream := .ofBytes
    "a.b;/;M;Crash\nx;Crash\na.b;/;M;Success\na.b;/;N;Crash\n".toUTF8.toList
  let setting (level : String) (name : String) : Option String :=
    if name = "DBUS_REPROGEN_LOG" then some level else none
  let world : World := ⟨["dbus-reprogen", "--session", "org.x.L"], setting "off", none,
    ⟨fun _ ↦ false, fun _ ↦ .ok log⟩, .ofBytes [], ⟨some 100, .noSpace⟩, false, .plain⟩
  let other : World := { world with
    commandLine := ["dbus-reprogen", "--debug", "--log-format=json", "--session", "org.x.L"]
    environment := setting "trace" }
  let args : Arguments := ⟨false, true, none, .dbusSend, [.crash], ["org.x.L"], none, false, none,
    false⟩
  have hworld : world.AgreesApartFromLog other :=
    ⟨by decide +kernel, fun name hname ↦ (if_neg hname).trans (if_neg hname).symm, rfl, rfl, rfl,
      rfl, rfl, rfl⟩
  have hargs : args.AgreesApartFromLog { args with debug := true, logFormat := some .json } := rfl
  obtain ⟨-, hrun⟩ := hworld.replay_and_run hargs
  have hagrees := hrun (by decide +kernel) (by decide +kernel)
  have hstatus : world.run.status = .error := by decide +kernel
  exact ⟨world, other, hworld, rfl, rfl, rfl, rfl, by decide +kernel, hagrees.stdout, hstatus,
    hagrees.status.trans hstatus, hagrees.diagnostics.trans (by decide +kernel)⟩

end World

end BusReplay
