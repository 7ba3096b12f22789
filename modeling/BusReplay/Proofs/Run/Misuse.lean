import BusReplay.Proofs.CommandLine.Precedence
import BusReplay.Proofs.CommandLine.Sources
import BusReplay.Proofs.Run.Program
import BusReplay.Run.Session

/-!
# Runs that are called wrongly

A run ends in a usage error exactly when its command line is wrong, or when standard input is a
source and no bus name is given for it. Such a run complains and does nothing else. All it depends
on is the command line and the configuration, so it has opened no source.
-/

namespace BusReplay

namespace CommandLine

/-- Behind two dashes no option is given. -/
theorem gives_append (texts others : List String) (key : OptionKey) :
    Gives (texts ++ others) key ↔ Gives texts key ∨ "--" ∉ texts ∧ Gives others key := by
  induction texts with
  | nil => simp [Gives]
  | cons text texts ih =>
    by_cases hdashes : text = "--"
    · simp [hdashes, not_gives_dashes]
    · rw [List.cons_append, gives_cons hdashes, gives_cons hdashes, ih, List.mem_cons, not_or,
        or_assoc]
      simp [Ne.symm hdashes]

/-- Two dashes among the entries make files of all that is typed. -/
theorem Defaults.gives_merge_iff {entries commandLine : List String} (hne : commandLine ≠ [])
    {key : OptionKey} (hkey : ∀ scope, key ≠ .scope scope) :
    Gives (((ofEntries entries).merge commandLine).drop 1) key ↔
      Gives (ofEntries entries).flags key ∨ "--" ∉ entries ∧ Gives (commandLine.drop 1) key := by
  rw [drop_merge _ hne, gives_append, gives_flagsFor_iff _ commandLine hkey,
    dashes_mem_flagsFor_iff]

/-- Arguments have a bus name exactly when an option gives one. -/
theorem name_ne_none_iff {commandLine : List String} {args : Arguments}
    (h : parse commandLine = .ok args) : args.name ≠ none ↔ Gives (commandLine.drop 1) .name := by
  obtain ⟨given, hgiven, hcheck⟩ := exists_given_of_parse h
  rw [Given.eq_complete_of_check hcheck]
  exact Given.has_iff_gives hgiven .name

namespace Arguments

/-- Standard input is refused if it is to be replayed and there is no bus name for it. -/
theorem task_eq_refuse_iff (args : Arguments) :
    args.task = .refuse ↔ args.completions = none ∧ args.manPage = false ∧
      .stdin ∈ args.sources ∧ args.name = none := by
  unfold task
  cases args.completions with
  | some shell => simp
  | none =>
    cases args.manPage with
    | true => simp
    | false => simp [← stdinWithoutName_iff, and_comm]

variable {avoided : ExitStatus}

/-- The sources of a run raise errors and no other status. -/
theorem notMem_raised (herror : avoided ≠ .error) (args : Arguments) (program : String)
    (files : FileSystem) (stdin : Stream) :
    avoided ∉ Step.raised (args.plan program files stdin).steps := by
  obtain ⟨results, -, htells⟩ := SourceContext.exists_yieldsAll
    (args.sourceContext program files) stdin args.sources
  intro hmem
  rw [plan, htells.raised] at hmem
  obtain ⟨result, -, hraised⟩ := List.mem_map.1 hmem
  exact herror hraised.symm

/-- The sources of a run end it in success or in an error. -/
theorem status_run_ne (hsuccess : avoided ≠ .success) (herror : avoided ≠ .error)
    (args : Arguments) (program : String) (world : World) :
    (args.run program world).2 ≠ avoided := by
  have hstatus : (Execution.ofSteps world.stdout
      (args.plan program world.files world.stdin).steps).status ≠ avoided :=
    Execution.status_resume_ne [] world.stdout (notMem_raised herror args program _ _)
      hsuccess.symm
  unfold run Execution.conclude
  dsimp only
  split
  · exact hstatus
  · exact hstatus
  · exact herror.symm

end Arguments

end CommandLine

namespace World

open CommandLine

variable {world : World}

/-- What is said before the command line is read: warnings about the configuration. -/
def notices (world : World) : List Effect := world.config.2 ++ world.defaultsNotice

def configDirectory (world : World) : String :=
  Config.directory world.environment world.accountHome

/-- The ways to call the program wrongly, and the complaint about each of them. -/
inductive IsMisused (world : World) : List String → Prop
  /-- The command line is wrong. To ask for help or for the version is not wrong. -/
  | wrong {failure : Failure} (hparse : parse world.mergedCommandLine = .error failure)
    (hhelp : ∀ full, failure ≠ .help full) (hversion : failure ≠ .version) :
    IsMisused world [failure.message .written]
  /-- Standard input is to be replayed, and no bus name is given for it. -/
  | unnamed {args : Arguments} (hparse : parse world.mergedCommandLine = .ok args)
    (hcompletions : args.completions = none) (hmanPage : args.manPage = false)
    (hstdin : .stdin ∈ args.sources) (hname : args.name = none) :
    IsMisused world
      [usageLine defaultProgram, world.program ++ ": " ++ RunError.missingStdinName.message]

theorem run_of_parse_eq_error {failure : Failure}
    (hparse : parse world.mergedCommandLine = .error failure) :
    world.run = (world.answer world.mergedCommandLine failure).after world.notices := by
  rw [run, hparse, notices]

theorem run_of_parse_eq_ok {args : Arguments}
    (hparse : parse world.mergedCommandLine = .ok args) :
    world.run = (world.perform args).after world.notices := by
  rw [run, hparse, notices]

theorem answer_of_wrong {failure : Failure} (commandLine : List String)
    (hhelp : ∀ full, failure ≠ .help full) (hversion : failure ≠ .version) :
    world.answer commandLine failure =
      ⟨[.diagnostic (failure.message .written)], .usage, .off⟩ := by
  cases failure with
  | help full => exact absurd rfl (hhelp full)
  | version => exact absurd rfl hversion
  | _ => rfl

theorem perform_of_unnamed {args : Arguments} (htask : args.task = .refuse) :
    world.perform args =
      ⟨[.diagnostic (usageLine defaultProgram),
        .diagnostic (world.program ++ ": " ++ RunError.missingStdinName.message)], .usage,
        world.logging args⟩ := by
  rw [perform, htask]

/-- All that a run needs to know to complain. -/
theorem IsMisused.exists_run_eq {complaints : List String} (h : world.IsMisused complaints) :
    ∃ logging, ∀ other : World, other.mergedCommandLine = world.mergedCommandLine →
      other.program = world.program → other.environment = world.environment →
      other.run = ⟨other.notices ++ complaints.map .diagnostic, .usage, logging⟩ := by
  cases h with
  | wrong hparse hhelp hversion =>
    refine ⟨.off, fun other hmerged _ _ ↦ ?_⟩
    rw [run_of_parse_eq_error (hmerged ▸ hparse), answer_of_wrong _ hhelp hversion]
    rfl
  | @unnamed args hparse hcompletions hmanPage hstdin hname =>
    refine ⟨world.logging args, fun other hmerged hprogram henvironment ↦ ?_⟩
    have htask : args.task = .refuse :=
      args.task_eq_refuse_iff.2 ⟨hcompletions, hmanPage, hstdin, hname⟩
    rw [run_of_parse_eq_ok (hmerged ▸ hparse), perform_of_unnamed htask, hprogram, logging,
      henvironment]
    rfl

/-- A text is generated with success, unless the output has no room for it. -/
theorem status_generate {failed : ExitStatus} (text : String) (complaint : IoError → String) :
    (world.generate text complaint failed).status = .success ∨
      (world.generate text complaint failed).status = failed ∧ world.stdout.room ≠ none := by
  unfold generate
  dsimp only
  cases hfailure : (world.writeText text).failure with
  | none => exact .inl rfl
  | some e =>
    refine .inr ⟨rfl, fun hroom ↦ ?_⟩
    have hworks := (Execution.resume_of_unlimited hroom [] .success [.write text]).2
    rw [writeText, Execution.ofSteps, hworks] at hfailure
    cases hfailure

/-- Only a run that is called wrongly ends in a usage error. -/
theorem exists_isMisused_of_status (h : world.run.status = .usage) :
    ∃ complaints, world.IsMisused complaints := by
  cases hparse : parse world.mergedCommandLine with
  | error failure =>
    rw [run_of_parse_eq_error hparse] at h
    cases failure with
    | help full => cases h
    | version => cases h
    | _ => exact ⟨_, .wrong hparse nofun nofun⟩
  | ok args =>
    rw [run_of_parse_eq_ok hparse] at h
    cases htask : args.task with
    | refuse =>
      obtain ⟨hcompletions, hmanPage, hstdin, hname⟩ := args.task_eq_refuse_iff.1 htask
      exact ⟨_, .unnamed hparse hcompletions hmanPage hstdin hname⟩
    | replay =>
      rw [perform, htask] at h
      exact absurd h (@Arguments.status_run_ne .usage nofun nofun args world.program world)
    | completions shell =>
      rw [perform, htask] at h
      rcases status_generate _ _ with hstatus | ⟨hstatus, -⟩ <;> cases hstatus.symm.trans h
    | manPage =>
      rw [perform, htask] at h
      rcases status_generate _ _ with hstatus | ⟨hstatus, -⟩ <;> cases hstatus.symm.trans h

/-- No run is aborted whose output takes every write. -/
theorem status_run_ne_aborted (hroom : world.stdout.room = none) :
    world.run.status ≠ .aborted := by
  intro h
  cases hparse : parse world.mergedCommandLine with
  | error failure =>
    rw [run_of_parse_eq_error hparse] at h
    cases failure <;> cases h
  | ok args =>
    rw [run_of_parse_eq_ok hparse] at h
    cases htask : args.task with
    | refuse =>
      rw [perform_of_unnamed htask] at h
      cases h
    | replay =>
      rw [perform, htask] at h
      exact absurd h (@Arguments.status_run_ne .aborted nofun nofun args world.program world)
    | completions shell | manPage =>
      rw [perform, htask] at h
      rcases status_generate _ _ with hstatus | ⟨-, hbounded⟩
      · cases hstatus.symm.trans h
      · exact hbounded hroom

/-- Behind the configuration no file matters to what is done before the sources. -/
theorem config_congr {files : FileSystem} {stdin : Stream}
    (hconfig : Config.load files world.configDirectory =
      Config.load world.files world.configDirectory) :
    ({ world with files := files, stdin := stdin } : World).config = world.config := by
  unfold configDirectory at hconfig
  unfold config
  rw [hconfig]
  rfl

theorem mergedCommandLine_congr {files : FileSystem} {stdin : Stream}
    (hconfig : Config.load files world.configDirectory =
      Config.load world.files world.configDirectory) :
    ({ world with files := files, stdin := stdin } : World).mergedCommandLine =
      world.mergedCommandLine := by
  rw [mergedCommandLine, mergedCommandLine, defaults, defaults, config_congr hconfig]

theorem notices_congr {files : FileSystem} {stdin : Stream}
    (hconfig : Config.load files world.configDirectory =
      Config.load world.files world.configDirectory) :
    ({ world with files := files, stdin := stdin } : World).notices = world.notices := by
  unfold notices defaultsNotice defaults
  rw [config_congr hconfig]
  rfl

theorem outputText?_of_mem_notices {effect : Effect} (h : effect ∈ world.notices) :
    effect.outputText? = none := by
  unfold notices config defaultsNotice at h
  rcases List.mem_append.1 h with h | h
  · split at h
    · cases h
    · rw [List.mem_singleton.1 h]
      rfl
  · split at h
    · cases h
    · simp only [List.mem_cons, List.not_mem_nil, or_false] at h
      rcases h with rfl | rfl <;> rfl

/-- A run ends in a usage error exactly when it is called wrongly. Then the complaint is all that
it adds to the warnings about the configuration, whatever there is to be read. A bus name counts as
given if it is configured, or typed with no two dashes configured in front of it. Any other run ends
in success or in an error, if its output takes every write. -/
theorem status_run_eq_usage_iff (world : World) :
    (world.run.status = .usage ↔ ∃ complaints, world.IsMisused complaints) ∧
    (∀ complaints, world.IsMisused complaints →
      world.run.effects = world.notices ++ complaints.map .diagnostic ∧
      world.run.stdout = "" ∧
      ∀ files stdin, Config.load files world.configDirectory =
          Config.load world.files world.configDirectory →
        ({ world with files := files, stdin := stdin } : World).run = world.run) ∧
    (∀ args, parse world.mergedCommandLine = .ok args → world.commandLine ≠ [] →
      (args.name ≠ none ↔ Gives world.defaults.flags .name ∨
        "--" ∉ world.config.1.defaultOptions ∧ Gives (world.commandLine.drop 1) .name)) ∧
    (world.stdout.room = none → world.run.status ≠ .usage →
      world.run.status = .success ∨ world.run.status = .error) := by
  refine ⟨⟨exists_isMisused_of_status, ?_⟩, ?_, ?_, ?_⟩
  · rintro ⟨complaints, h⟩
    obtain ⟨logging, hrun⟩ := h.exists_run_eq
    rw [hrun world rfl rfl rfl]
  · intro complaints h
    obtain ⟨logging, hrun⟩ := h.exists_run_eq
    have hself : world.run.effects = world.notices ++ complaints.map .diagnostic := by
      rw [hrun world rfl rfl rfl]
    refine ⟨hself, ?_, fun files stdin hconfig ↦ ?_⟩
    · rw [Report.stdout, hself]
      refine stdoutText_eq_empty fun effect heffect ↦ ?_
      rcases List.mem_append.1 heffect with hnotice | hcomplaint
      · exact outputText?_of_mem_notices hnotice
      · obtain ⟨complaint, -, rfl⟩ := List.mem_map.1 hcomplaint
        rfl
    · rw [hrun _ (mergedCommandLine_congr hconfig) rfl rfl, hrun world rfl rfl rfl,
        notices_congr hconfig]
  · intro args hparse hne
    exact (name_ne_none_iff hparse).trans (Defaults.gives_merge_iff hne nofun)
  · intro hroom h
    cases hstatus : world.run.status with
    | success => exact .inl rfl
    | error => exact .inr rfl
    | usage => exact absurd hstatus h
    | aborted => exact absurd hstatus (status_run_ne_aborted hroom)

/-- Standard input behind a log that could be replayed: the log is not even opened. -/
theorem status_run_eq_usage_iff_dash :
    ∃ world : World, world.commandLine = ["dbus-reprogen", "--system", "org.x.L", "-"] ∧
      (∃ stream, world.files.openFile "org.x.L" = .ok stream ∧ stream.lines ≠ []) ∧
      world.run.status = .usage ∧ world.run.stdout = "" ∧
      world.run.effects = [.diagnostic "Usage: dbus-reprogen [OPTIONS] [FILE]...",
        .diagnostic "dbus-reprogen: When taking input from stdin, you must specify bus name"] ∧
      ({ world with files := ⟨fun _ ↦ false, fun _ ↦ .error .notFound⟩ } : World).run =
        world.run := by
  let log : Stream := .ofBytes "a.b;/;M;Crash\n".toUTF8.toList
  let world : World := ⟨["dbus-reprogen", "--system", "org.x.L", "-"], fun _ ↦ none, none,
    ⟨fun _ ↦ false, fun _ ↦ .ok log⟩, .ofBytes [], .unlimited, false, .plain⟩
  have hparse : parse world.mergedCommandLine = .ok ⟨true, false, none, .dbusSend, [.crash],
      ["org.x.L", "-"], none, false, none, false⟩ := by decide +kernel
  have hmisused := IsMisused.unnamed hparse rfl rfl (by decide +kernel) rfl
  obtain ⟨hiff, hrefused, -⟩ := status_run_eq_usage_iff world
  obtain ⟨heffects, hstdout, hcongr⟩ := hrefused _ hmisused
  refine ⟨world, rfl, ⟨log, rfl, by decide +kernel⟩, hiff.2 ⟨_, hmisused⟩, hstdout, ?_,
    hcongr _ _ rfl⟩
  rw [heffects]
  decide +kernel

/-- A bus name that is typed counts for nothing behind two dashes that are configured: the option
and its value are two files then, and standard input behind them is refused. -/
theorem not_forall_status_run_eq_usage_iff :
    ¬ ∀ world : World, world.stdout.room = none →
      (world.run.status = .usage ↔
        (∃ failure, parse world.mergedCommandLine = .error failure ∧
          (∀ full, failure ≠ .help full) ∧ failure ≠ .version) ∨
        ∃ args, parse world.mergedCommandLine = .ok args ∧ args.completions = none ∧
          args.manPage = false ∧ .stdin ∈ args.sources ∧
          ¬ Gives (world.commandLine.drop 1) .name ∧ ¬ Gives world.defaults.flags .name) := by
  intro h
  let config : Stream :=
    .ofBytes "[defaults]\noptions = [\"--session\", \"--\"]\n".toUTF8.toList
  let world : World := ⟨["dbus-reprogen", "-n", "org.x.N", "-"], fun _ ↦ none, none,
    ⟨fun _ ↦ true, fun _ ↦ .ok config⟩, .ofBytes "a.B;/;M;Crash\n".toUTF8.toList, .unlimited,
    false, .plain⟩
  have hparse : parse world.mergedCommandLine = .ok ⟨false, true, none, .dbusSend, [.crash],
      ["-n", "org.x.N", "-"], none, false, none, false⟩ := by decide +kernel
  have hstatus : world.run.status = .usage := by decide +kernel
  rcases (h world rfl).1 hstatus with ⟨failure, hfailure, -⟩ | ⟨args, -, -, -, -, htyped, -⟩
  · cases hparse.symm.trans hfailure
  · exact htyped (by decide)

end World

end BusReplay
