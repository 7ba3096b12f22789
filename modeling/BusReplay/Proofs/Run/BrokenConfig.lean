import BusReplay.Proofs.Run.Files
import BusReplay.Proofs.Run.Misuse

/-!
# Runs with a broken configuration

A run looks at the file system for its configuration and for the sources it replays. A configuration
that cannot be read or is no TOML counts as an empty one, so such a run does what it does without a
configuration file, behind one warning.
-/

namespace BusReplay

/-- A path leads to something that cannot be read as a TOML document. -/
def FileSystem.HoldsBroken (files : FileSystem) (path : String) : Prop :=
  files.present path = true ∧
    ((∃ e, files.readText path = .error e) ∨
      ∃ text, files.readText path = .ok text ∧ Toml.parse text = none)

/-- A file system in which a path leads nowhere, and which is the same as another one in all that
can be opened by paths that do not name the file there. -/
structure FileSystem.Lacks (absent files : FileSystem) (path : String) (Names : String → Prop) :
    Prop where
  missing : absent.present path = false
  same : ∀ other, ¬ Names other → absent.openFile other = files.openFile other

namespace Config

variable {files : FileSystem} {directory : String}

/-- A broken configuration is not loaded. -/
theorem load_of_broken (h : files.HoldsBroken (fileIn directory)) :
    ∃ e, load files directory = .error e := by
  obtain ⟨hpresent, hbroken⟩ := h
  unfold load
  rw [if_pos hpresent]
  rcases hbroken with ⟨e, hread⟩ | ⟨text, hread, hparse⟩
  · rw [hread]
    exact ⟨_, rfl⟩
  · rw [hread]
    dsimp only
    rw [parse, hparse]
    exact ⟨_, rfl⟩

/-- A configuration that is not there counts as empty. -/
theorem load_of_missing (h : files.present (fileIn directory) = false) :
    load files directory = .ok .empty := by
  rw [load, if_neg (by simp [h])]

end Config

namespace Report

variable {report : Report}

theorem after_append (effects others : List Effect) :
    report.after (effects ++ others) = (report.after others).after effects := by
  simp [after]

theorem stdout_after_diagnostic (text : String) :
    (report.after [.diagnostic text]).stdout = report.stdout :=
  rfl

theorem stderr_after_diagnostic (text time : String) :
    (report.after [.diagnostic text]).stderr time = text ++ "\n" ++ report.stderr time :=
  String.join_cons

end Report

/-! ## Two runs that differ in their files -/

namespace World

open CommandLine

variable {world : World} {files : FileSystem}

def configFile (world : World) : String := Config.fileIn world.configDirectory

def configWarning (world : World) (reason : String) : String :=
  world.console.warning ("Failed to load config: " ++ reason)

theorem config_of_error {e : RunError}
    (h : Config.load world.files world.configDirectory = .error e) :
    world.config = (.empty, [.diagnostic (world.configWarning e.message)]) := by
  unfold configDirectory at h
  rw [config, h, configWarning]

theorem config_of_ok {config : Config}
    (h : Config.load world.files world.configDirectory = .ok config) :
    world.config = (config, []) := by
  unfold configDirectory at h
  rw [World.config, h]

/-- What a run does for its arguments depends on the files that it replays only. -/
theorem perform_congr {args : Arguments}
    (hopen : args.task = .replay → ∀ path, .file path ∈ args.sources →
      files.openFile path = world.files.openFile path) :
    ({ world with files := files } : World).perform args = world.perform args := by
  unfold perform
  cases htask : args.task with
  | completions shell | manPage | refuse => rfl
  | replay =>
    have hplan : args.plan world.program files world.stdin =
        args.plan world.program world.files world.stdin :=
      @SourceContext.plan_congr (args.sourceContext world.program world.files) files args.sources
        world.stdin (hopen htask)
    have hrun : args.run world.program { world with files := files } =
        args.run world.program world := by
      unfold Arguments.run
      dsimp only
      rw [hplan]
    have hprogram : ({ world with files := files } : World).program = world.program := rfl
    dsimp only
    rw [hprogram, hrun]
    rfl

theorem openFile_eq_of_mem_sources {args : Arguments}
    (hparse : parse world.mergedCommandLine = .ok args)
    (hopen : ∀ path, .file path ∈ world.sources →
      files.openFile path = world.files.openFile path) (htask : args.task = .replay) :
    ∀ path, .file path ∈ args.sources → files.openFile path = world.files.openFile path := by
  intro path hpath
  have hsources : world.sources = args.sources := by
    rw [sources, hparse]
    exact if_pos htask
  exact hopen path (hsources ▸ hpath)

/-- Behind what is said about the configuration, a run depends on the options that are configured
and on the files that it replays. -/
theorem exists_run_eq_after
    (hconfig : ({ world with files := files } : World).config.1 = world.config.1)
    (hopen : ∀ path, .file path ∈ world.sources →
      files.openFile path = world.files.openFile path) :
    ∃ report : Report, world.run = report.after world.config.2 ∧
      ({ world with files := files } : World).run =
        report.after ({ world with files := files } : World).config.2 := by
  let other : World := { world with files := files }
  -- The configured options fix the command line, so both runs are asked to do the same.
  have hdefaults : other.defaults = world.defaults :=
    congrArg (fun config : Config ↦ Defaults.ofEntries config.defaultOptions) hconfig
  have hmerged : other.mergedCommandLine = world.mergedCommandLine :=
    congrArg (Defaults.merge · world.commandLine) hdefaults
  have hnotice : other.defaultsNotice = world.defaultsNotice := by
    unfold defaultsNotice
    rw [hdefaults]
    rfl
  cases hparse : parse world.mergedCommandLine with
  | error failure =>
    refine ⟨(world.answer world.mergedCommandLine failure).after world.defaultsNotice, ?_, ?_⟩
    · rw [run_of_parse_eq_error hparse, notices, Report.after_append]
    · calc other.run
        _ = (other.answer other.mergedCommandLine failure).after other.notices :=
          run_of_parse_eq_error (hmerged ▸ hparse)
        _ = ((world.answer world.mergedCommandLine failure).after world.defaultsNotice).after
            other.config.2 := by
          rw [notices, Report.after_append, hmerged, hnotice]
          rfl
  | ok args =>
    refine ⟨(world.perform args).after world.defaultsNotice, ?_, ?_⟩
    · rw [run_of_parse_eq_ok hparse, notices, Report.after_append]
    · calc other.run
        _ = (other.perform args).after other.notices := run_of_parse_eq_ok (hmerged ▸ hparse)
        _ = ((world.perform args).after world.defaultsNotice).after other.config.2 := by
          rw [notices, Report.after_append, hnotice,
            perform_congr (openFile_eq_of_mem_sources hparse hopen)]

/-- A configuration that cannot be read or is no TOML does not change a run, however it ends: there
is one warning at the start, and then all is as with no configuration file. -/
theorem run_of_broken_config {absent : FileSystem} {Names : String → Prop}
    (hbroken : world.files.HoldsBroken world.configFile)
    (habsent : absent.Lacks world.files world.configFile Names)
    (hsources : ∀ path, .file path ∈ world.sources → ¬ Names path) :
    ∃ e, Config.load world.files world.configDirectory = .error e ∧
      let other : World := { world with files := absent }
      world.run = other.run.after [.diagnostic (world.configWarning e.message)] ∧
      world.run.stdout = other.run.stdout ∧
      world.run.status = other.run.status ∧
      (∀ time, world.run.stderr time =
        world.configWarning e.message ++ "\n" ++ other.run.stderr time) ∧
      (world.terminal = false →
        world.configWarning e.message = "Warning: Failed to load config: " ++ e.message) := by
  obtain ⟨e, hload⟩ := Config.load_of_broken hbroken
  have hconfig := config_of_error hload
  have hother : ({ world with files := absent } : World).config = (.empty, []) :=
    config_of_ok (Config.load_of_missing habsent.missing)
  obtain ⟨report, hrun, hrunOther⟩ := @exists_run_eq_after world absent
    (by rw [hconfig, hother]) fun path hpath ↦ habsent.same path (hsources path hpath)
  have hafter : world.run = ({ world with files := absent } : World).run.after
      [.diagnostic (world.configWarning e.message)] := by
    rw [hrun, hrunOther, hconfig, hother]
    rfl
  refine ⟨e, hload, hafter, ?_, ?_, fun time ↦ ?_, fun hterminal ↦ ?_⟩
  · rw [hafter, Report.stdout_after_diagnostic]
  · rw [hafter, Report.after]
  · rw [hafter, Report.stderr_after_diagnostic]
  · simp [configWarning, Console.warning, console, hterminal, ← String.append_assoc]

/-- A table that is not closed, for a log with a line that is rejected and a log that is missing. -/
theorem run_of_broken_config_unclosed :
    ∃ (world : World) (absent : FileSystem),
      world.files.readText world.configFile = .ok "[defaults\n" ∧
      absent.present world.configFile = false ∧
      .file "org.x.L" ∈ world.sources ∧ .file "gone" ∈ world.sources ∧
      world.run = ({ world with files := absent } : World).run.after
        [.diagnostic "Warning: Failed to load config: Config error: Invalid config TOML"] ∧
      world.run.stdout = "dbus-send --session --dest=org.x.L --print-reply / a.b.M int32:7 \n" ∧
      world.run.status = .error := by
  let log : Stream := .ofBytes "a.b;/;M;i;7;Crash\na.b;/;M;h;7;Crash\n".toUTF8.toList
  let logs (path : String) : Except IoError Stream :=
    if path = "org.x.L" then .ok log else .error .notFound
  let present : FileSystem := ⟨fun path ↦ path = "cfg/config.toml", fun path ↦
    if path = "cfg/config.toml" then .ok (.ofBytes "[defaults\n".toUTF8.toList) else logs path⟩
  let absent : FileSystem := ⟨fun _ ↦ false, logs⟩
  let world : World := ⟨["dbus-reprogen", "--session", "org.x.L", "gone"],
    fun name ↦ if name = "DBUS_REPROGEN_CONFIG_DIR" then some "cfg" else none, none, present,
    .ofBytes [], .unlimited, false, .plain⟩
  have hsources : world.sources = [.file "org.x.L", .file "gone"] := by decide +kernel
  have hread : world.files.readText world.configFile = .ok "[defaults\n" := by decide +kernel
  have hbroken : world.files.HoldsBroken world.configFile :=
    ⟨by decide +kernel, .inr ⟨_, hread, by decide +kernel⟩⟩
  have habsent : absent.Lacks world.files world.configFile (· = "cfg/config.toml") :=
    ⟨rfl, fun path hpath ↦ (if_neg hpath).symm⟩
  have hload : Config.load world.files world.configDirectory =
      .error (.config "Invalid config TOML") := by decide +kernel
  obtain ⟨e, he, hrun, hstdout, hstatus, -, hwarning⟩ :=
    run_of_broken_config hbroken habsent (by simp [hsources])
  obtain rfl : e = .config "Invalid config TOML" := Except.error.inj (he.symm.trans hload)
  refine ⟨world, absent, hread, rfl, by simp [hsources], by simp [hsources], ?_, ?_, ?_⟩
  · rw [hrun, hwarning rfl]
    rfl
  · rw [hstdout]
    decide +kernel
  · rw [hstatus]
    decide +kernel

end World

end BusReplay
