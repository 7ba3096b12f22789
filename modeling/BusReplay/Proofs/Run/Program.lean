import BusReplay.Proofs.Run.SourceRun
import BusReplay.Run.Program

/-!
# A run over all sources against an output that never fails

What a run does is told source by source. A source that is refused, cannot be opened or cannot be
read to its end leaves the others as they are, except that standard input is used up by the first
source that reads it. The status tells whether a source has failed; lines never change it.
-/

namespace BusReplay

/-- What has come of a source. -/
structure SourceResult where
  source : Source
  /-- The outcomes of the lines that were read, in order. -/
  outcomes : List (Except RunError Outcome)
  /-- Why the source failed, if it did. -/
  failure : Option RunError

namespace SourceResult

/-- The commands of a source, each on a line of its own. -/
def output (result : SourceResult) : String :=
  String.join ((result.outcomes.filterMap command?).map fun command ↦ command ++ "\n")

/-- What is said about a source: the complaints about its lines, and then its failure. -/
def notices (program : String) (result : SourceResult) : List String :=
  complaints program result.source.displayName result.outcomes 1 ++
    (result.failure.map fun e ↦ program ++ ": " ++ e.message).toList

def hasFailed (result : SourceResult) : Bool := result.failure.isSome

end SourceResult

/-- Standard input behind earlier sources: the first source that reads it leaves nothing. -/
def Stream.behind (stdin : Stream) (earlier : List Source) : Stream :=
  if .stdin ∈ earlier then stdin.drained else stdin

namespace SourceContext

variable {ctx : SourceContext} {stdin : Stream}

/-- The ways in which a source can end. -/
inductive Yields (ctx : SourceContext) (stdin : Stream) : SourceResult → Prop
  /-- The source has no bus name, or an invalid one. -/
  | refused {source : Source} {e : RunError} (hname : source.busName ctx.stdinName = .error e) :
    Yields ctx stdin ⟨source, [], some e⟩
  | unopened {source : Source} {busName : String} {e : RunError}
    (hname : source.busName ctx.stdinName = .ok busName)
    (hopen : ctx.openSource stdin source = .error e) : Yields ctx stdin ⟨source, [], some e⟩
  /-- Reading fails behind the bytes of the stream, and the line that it cuts off is lost. -/
  | interrupted {source : Source} {busName : String} {stream : Stream} {e : IoError}
    {lines : List (List UInt8)} (hname : source.busName ctx.stdinName = .ok busName)
    (hopen : ctx.openSource stdin source = .ok stream) (hfailure : stream.failure = some e)
    (hcut : IsLineCut stream.bytes lines) :
    Yields ctx stdin ⟨source, (lines.filter fun line ↦ line.getLast? == some newlineByte).map
      fun line ↦ ctx.reproducer.reproduce (decodeLine line) busName,
      some (.source source.displayName e)⟩
  | finished {source : Source} {busName : String} {stream : Stream} {lines : List (List UInt8)}
    (hname : source.busName ctx.stdinName = .ok busName)
    (hopen : ctx.openSource stdin source = .ok stream) (hfailure : stream.failure = none)
    (hcut : IsLineCut stream.bytes lines) :
    Yields ctx stdin
      ⟨source, lines.map fun line ↦ ctx.reproducer.reproduce (decodeLine line) busName, none⟩

/-- A source can end in one way only. -/
theorem Yields.unique {result other : SourceResult} (h : ctx.Yields stdin result)
    (hother : ctx.Yields stdin other) (hsource : other.source = result.source) :
    other = result := by
  cases h with
  | refused hname => cases hother <;> simp_all
  | unopened hname hopen => cases hother <;> simp_all
  | interrupted hname hopen hfailure hcut =>
    obtain rfl := hcut.eq_cutLines
    cases hother with
    | interrupted _ _ _ hother =>
      obtain rfl := hother.eq_cutLines
      simp_all
    | _ => simp_all
  | finished hname hopen hfailure hcut =>
    obtain rfl := hcut.eq_cutLines
    cases hother with
    | finished _ _ _ hother =>
      obtain rfl := hother.eq_cutLines
      simp_all
    | _ => simp_all

/-! ## One source -/

/-- What is done about a source, and what has come of it. -/
structure Tells (program : String) (results : List SourceResult) (steps : List Step) : Prop where
  stdout : stdoutText (Step.effects steps) = String.join (results.map SourceResult.output)
  diagnostics : diagnostics (Step.effects steps) = results.flatMap (SourceResult.notices program)
  raised : Step.raised steps = (results.filter SourceResult.hasFailed).map fun _ ↦ .error

end SourceContext

namespace LineContext

variable (ctx : LineContext)

theorem raised_allSteps (lines : List String) (first : Nat) :
    Step.raised (ctx.allSteps lines first) = [] := by
  induction lines generalizing first with
  | nil => rfl
  | cons line lines ih =>
    rw [allSteps_cons, Step.raised_append, ih, List.append_nil, steps]
    rcases ctx.outcome line with e | (text | _ | _) <;> rfl

end LineContext

namespace SourceContext

variable {ctx : SourceContext} {stdin : Stream} {program : String}

/-- How the steps of a source are made up: log events, the steps of its lines, and what is done at
its end, where nothing is written. -/
inductive Enacts (program : String) : SourceResult → List Step → Prop
  | intro (lines : LineContext) (texts : List String) (events : List Log.Event) {source : Source}
    {failure : Option RunError} {ending : List Step} (hprogram : lines.program = program)
    (hsource : lines.source = source.displayName)
    (hending : Tells program [⟨source, [], failure⟩] ending) (hquiet : Step.AreQuiet ending) :
    Enacts program ⟨source, texts.map lines.outcome, failure⟩
      (events.map .log ++ (lines.allSteps texts 1 ++ ending))

theorem Enacts.tells {result : SourceResult} {steps : List Step} (h : Enacts program result steps) :
    Tells program [result] steps := by
  obtain @⟨lines, texts, events, source, failure, ending, rfl, hsource, hending, -⟩ := h
  have hevents : ∀ effect ∈ Step.effects (events.map .log), effect.isEvent = true := by
    simp [Step.effects_map_log, Effect.isEvent]
  refine ⟨?_, ?_, ?_⟩
  · rw [Step.effects_append, Step.effects_append, stdoutText_append, stdoutText_append,
      stdoutText_of_events hevents, LineContext.stdoutText_allSteps, hending.stdout]
    exact String.empty_append.trans String.append_empty
  · rw [Step.effects_append, Step.effects_append, diagnostics_append, diagnostics_append,
      diagnostics_of_events hevents, LineContext.diagnostics_allSteps, hending.diagnostics, hsource]
    simp only [List.flatMap_singleton, SourceResult.notices]
    rfl
  · rw [Step.raised_append, Step.raised_append, Step.raised_map_log, LineContext.raised_allSteps,
      hending.raised]
    cases failure <;> rfl

def stepsFor (ctx : SourceContext) (stdin : Stream) (source : Source) : List Step :=
  (ctx.run stdin source).steps ++ ctx.conclusion source (ctx.run stdin source).outcome

theorem areQuiet_conclusion (ctx : SourceContext) (source : Source)
    (outcome : Except RunError Stats) : Step.AreQuiet (ctx.conclusion source outcome) := by
  cases outcome <;> simp [conclusion, Step.AreQuiet, Step.isWrite]

/-- How the run of a source is made up: log events and the steps of its lines, and then its counts
or its failure. -/
inductive Performs (program : String) : SourceResult → SourceRun → Prop
  | intro (lines : LineContext) (texts : List String) (events : List Log.Event) {source : Source}
    {failure : Option RunError} (hprogram : lines.program = program)
    (hsource : lines.source = source.displayName) :
    Performs program ⟨source, texts.map lines.outcome, failure⟩
      ⟨events.map .log ++ lines.allSteps texts 1,
        (failure.map Except.error).getD (.ok (lines.allStats texts))⟩

theorem exists_performs (ctx : SourceContext) (stdin : Stream) (source : Source) :
    ∃ result, result.source = source ∧ ctx.Yields stdin result ∧
      Performs ctx.program result (ctx.run stdin source) := by
  let lines (busName : String) : LineContext :=
    ⟨ctx.reproducer, ctx.program, source.displayName, busName⟩
  unfold run
  cases hname : source.busName ctx.stdinName with
  | error e =>
    exact ⟨⟨source, [], some e⟩, rfl, .refused hname, .intro (lines "") [] [] rfl rfl⟩
  | ok busName =>
    cases hopen : ctx.openSource stdin source with
    | error e =>
      exact ⟨⟨source, [], some e⟩, rfl, .unopened hname hopen,
        .intro (lines busName) [] [_] rfl rfl⟩
    | ok stream =>
      dsimp only [SourceRun.ofStream]
      cases hfailure : stream.failure with
      | some e =>
        have houtcomes : stream.lines.map (lines busName).outcome =
            ((cutLines stream.bytes).filter fun line ↦ line.getLast? == some newlineByte).map
              fun line ↦ ctx.reproducer.reproduce (decodeLine line) busName := by
          rw [Stream.lines, Stream.rawLines, hfailure, List.map_map]
          rfl
        refine ⟨_, rfl, .interrupted hname hopen hfailure (isLineCut_cutLines _), ?_⟩
        rw [← houtcomes]
        exact .intro (lines busName) stream.lines [_] rfl rfl
      | none =>
        have houtcomes : stream.lines.map (lines busName).outcome =
            (cutLines stream.bytes).map
              fun line ↦ ctx.reproducer.reproduce (decodeLine line) busName := by
          rw [Stream.lines, Stream.rawLines, hfailure, List.map_map]
          rfl
        refine ⟨_, rfl, .finished hname hopen hfailure (isLineCut_cutLines _), ?_⟩
        rw [← houtcomes]
        exact .intro (lines busName) stream.lines [_] rfl rfl

/-- The conclusion of a source is all that is done behind its run. -/
theorem Performs.enacts {result : SourceResult} {run : SourceRun}
    (h : Performs ctx.program result run) :
    Enacts ctx.program result (run.steps ++ ctx.conclusion result.source run.outcome) := by
  obtain @⟨lines, texts, events, source, failure, hprogram, hsource⟩ := h
  rw [List.append_assoc]
  refine .intro lines texts events hprogram hsource ?_ (ctx.areQuiet_conclusion source _)
  cases failure <;> exact ⟨rfl, rfl, rfl⟩

theorem exists_yields (ctx : SourceContext) (stdin : Stream) (source : Source) :
    ∃ result, result.source = source ∧ ctx.Yields stdin result ∧
      Enacts ctx.program result (ctx.stepsFor stdin source) := by
  obtain ⟨result, rfl, hyields, hperforms⟩ := ctx.exists_performs stdin source
  exact ⟨result, rfl, hyields, hperforms.enacts⟩

/-! ## All sources -/

theorem Tells.append {program : String} {results others : List SourceResult}
    {steps more : List Step} (h : Tells program results steps) (hmore : Tells program others more) :
    Tells program (results ++ others) (steps ++ more) where
  stdout := by
    rw [Step.effects_append, stdoutText_append, h.stdout, hmore.stdout]
    apply String.toList_injective
    simp [String.toList_join]
  diagnostics := by
    rw [Step.effects_append, diagnostics_append, h.diagnostics, hmore.diagnostics,
      List.flatMap_append]
  raised := by
    rw [Step.raised_append, h.raised, hmore.raised, List.filter_append, List.map_append]

theorem steps_plan_cons (ctx : SourceContext) (stdin : Stream) (source : Source)
    (rest : List Source) : (ctx.plan stdin (source :: rest)).steps =
      ctx.stepsFor stdin source ++ (ctx.plan (ctx.stdinAfter stdin source) rest).steps := rfl

/-- What has come of sources: each ends on its own, with what the sources before it have left of
standard input. -/
structure YieldsAll (ctx : SourceContext) (stdin : Stream) (sources : List Source)
    (results : List SourceResult) : Prop where
  order : results.map SourceResult.source = sources
  each : ∀ i result, results[i]? = some result →
    ctx.Yields (stdin.behind (sources.take i)) result

/-- There is one list of results for sources and what they hold. -/
theorem YieldsAll.unique {sources : List Source} {results others : List SourceResult}
    (h : ctx.YieldsAll stdin sources results) (hothers : ctx.YieldsAll stdin sources others) :
    others = results := by
  have horder : others.map SourceResult.source = results.map SourceResult.source :=
    hothers.order.trans h.order.symm
  have hlength : others.length = results.length := by simpa using congrArg List.length horder
  apply List.ext_getElem hlength
  intro i hother hresult
  have hsource : others[i].source = results[i].source := by
    simpa [hother, hresult] using congrArg (fun sources ↦ sources[i]?) horder
  exact (h.each i _ (List.getElem?_eq_getElem hresult)).unique
    (hothers.each i _ (List.getElem?_eq_getElem hother)) hsource

/-- Standard input matters to no source unless there is a bus name for it. -/
theorem Yields.congr {other : Stream} {result : SourceResult}
    (hstdin : ∀ busName, Source.stdin.busName ctx.stdinName = .ok busName → stdin = other)
    (h : ctx.Yields stdin result) : ctx.Yields other result := by
  have hopen {source : Source} {busName : String}
      (hname : source.busName ctx.stdinName = .ok busName) :
      ctx.openSource other source = ctx.openSource stdin source := by
    cases source with
    | stdin => rw [hstdin busName hname]
    | file path => rfl
  cases h with
  | refused hname => exact .refused hname
  | unopened hname hfault => exact .unopened hname ((hopen hname).trans hfault)
  | interrupted hname hstream hfailure hcut =>
    exact .interrupted hname ((hopen hname).trans hstream) hfailure hcut
  | finished hname hstream hfailure hcut =>
    exact .finished hname ((hopen hname).trans hstream) hfailure hcut

/-- One source leaves standard input as the sources up to it do. -/
theorem stdinAfter_eq_behind {current : Stream} {earlier : List Source} {busName : String}
    (hname : Source.stdin.busName ctx.stdinName = .ok busName)
    (hcurrent : current = stdin.behind earlier) (source : Source) :
    ctx.stdinAfter current source = stdin.behind (earlier ++ [source]) := by
  subst hcurrent
  cases source with
  | stdin =>
    unfold stdinAfter Stream.behind
    rw [hname]
    by_cases hearlier : Source.stdin ∈ earlier <;> simp [hearlier, Stream.drained]
  | file path => simp [stdinAfter, Stream.behind]

/-- The steps for sources, source by source, tell what has come of the sources. -/
theorem Tells.flatten {results : List SourceResult} {parts : List (List Step)}
    (h : List.Forall₂ (Enacts program) results parts) : Tells program results parts.flatten := by
  induction h with
  | nil => exact ⟨rfl, rfl, rfl⟩
  | cons hresult _ ih => exact hresult.tells.append ih

/-- The induction carries what is left of standard input, as far as any source can tell. -/
theorem exists_yieldsAll_behind (rest earlier : List Source) (current : Stream)
    (hcurrent : ∀ busName, Source.stdin.busName ctx.stdinName = .ok busName →
      current = stdin.behind earlier) :
    ∃ results parts, results.map SourceResult.source = rest ∧
      (∀ i result, results[i]? = some result →
        ctx.Yields (stdin.behind (earlier ++ rest.take i)) result) ∧
      List.Forall₂ (Enacts ctx.program) results parts ∧
      (ctx.plan current rest).steps = parts.flatten := by
  induction rest generalizing earlier current with
  | nil => exact ⟨[], [], rfl, by simp, .nil, rfl⟩
  | cons source rest ih =>
    obtain ⟨result, hsource, hyields, henacts⟩ := exists_yields ctx current source
    obtain ⟨results, parts, horder, heach, hall, hsteps⟩ :=
      ih (earlier ++ [source]) (ctx.stdinAfter current source)
        fun busName hname ↦ stdinAfter_eq_behind hname (hcurrent busName hname) source
    refine ⟨result :: results, _ :: parts, by rw [List.map_cons, hsource, horder], ?_,
      .cons henacts hall, ?_⟩
    · intro i other hother
      cases i with
      | zero =>
        rw [List.getElem?_cons_zero, Option.some.injEq] at hother
        rw [List.take_zero, List.append_nil, ← hother]
        exact hyields.congr hcurrent
      | succ i =>
        rw [List.take_succ_cons, List.append_cons]
        exact heach i other hother
    · rw [steps_plan_cons, hsteps, List.flatten_cons]

theorem exists_enacts (ctx : SourceContext) (stdin : Stream) (sources : List Source) :
    ∃ results parts, ctx.YieldsAll stdin sources results ∧
      List.Forall₂ (Enacts ctx.program) results parts ∧
      (ctx.plan stdin sources).steps = parts.flatten := by
  have hstdin : stdin = stdin.behind [] := by simp [Stream.behind]
  obtain ⟨results, parts, horder, heach, hall, hsteps⟩ :=
    exists_yieldsAll_behind sources [] stdin fun _ _ ↦ hstdin
  exact ⟨results, parts, ⟨horder, heach⟩, hall, hsteps⟩

/-- The plan for sources tells what has come of them. -/
theorem exists_yieldsAll (ctx : SourceContext) (stdin : Stream) (sources : List Source) :
    ∃ results, ctx.YieldsAll stdin sources results ∧
      Tells ctx.program results (ctx.plan stdin sources).steps := by
  obtain ⟨results, parts, hyields, hall, hsteps⟩ := exists_enacts ctx stdin sources
  exact ⟨results, hyields, hsteps ▸ Tells.flatten hall⟩

end SourceContext

/-- An error is the worst that a source can do to the status. -/
theorem foldl_worst_error {α : Type} (xs : List α) (status : ExitStatus) :
    (xs.map fun _ ↦ ExitStatus.error).foldl ExitStatus.worst status =
      if xs.isEmpty then status else status.worst .error := by
  induction xs generalizing status with
  | nil => rfl
  | cons x xs ih =>
    rw [List.map_cons, List.foldl_cons, ih]
    cases status <;> simp [ExitStatus.worst, ExitStatus.code]

/-- Sources raise an error exactly when one of them fails. -/
theorem SourceContext.Tells.foldl_worst {program : String} {results : List SourceResult}
    {steps : List Step} (h : Tells program results steps) :
    (Step.raised steps).foldl ExitStatus.worst .success =
      if ∃ result ∈ results, result.failure ≠ none then .error else .success := by
  rw [h.raised, foldl_worst_error]
  have hfailed : (results.filter SourceResult.hasFailed).isEmpty = true ↔
      ¬ ∃ result ∈ results, result.failure ≠ none := by
    simp [List.filter_eq_nil_iff, SourceResult.hasFailed]
  by_cases hany : ∃ result ∈ results, result.failure ≠ none
  · rw [if_neg (fun hnone ↦ hfailed.1 hnone hany), if_pos hany]
    rfl
  · rw [if_pos (hfailed.2 hany), if_neg hany]

namespace CommandLine.Arguments

/-- The log event at the end of a run whose output has not failed. -/
def completion (args : Arguments) (totals : Stats) : Effect :=
  .event ⟨.run, .info, "run complete",
    ("target_tool", .quoted args.target.tool) :: totals.logFields⟩

theorem isEvent_of_mem_announcement {args : Arguments} {effect : Effect}
    (h : effect ∈ args.announcement) : effect.isEvent = true := by
  unfold announcement at h
  split at h
  · rw [List.mem_singleton.1 h]
    rfl
  · cases h

/-- A run whose output takes every write carries out its whole plan. -/
theorem run_eq_of_unlimited (args : Arguments) (program : String) {world : World}
    (hsink : world.stdout.room = none) :
    args.run program world =
      (args.announcement ++ (Step.effects (args.plan program world.files world.stdin).steps ++
          [args.completion (args.plan program world.files world.stdin).totals]),
        (Step.raised (args.plan program world.files world.stdin).steps).foldl ExitStatus.worst
          .success) := by
  let plan := args.plan program world.files world.stdin
  obtain ⟨heffects, hfailure⟩ := Execution.resume_of_unlimited hsink [] .success plan.steps
  have hstatus := Execution.status_resume_of_unlimited hsink [] .success plan.steps
  unfold run Execution.conclude Execution.ofSteps completion
  dsimp only
  rw [hfailure, hstatus, heffects, List.reverse_nil, List.nil_append]

/-- Around the effects of the sources a run has log events only. -/
theorem exists_run_eq (args : Arguments) (program : String) {world : World}
    (hsink : world.stdout.room = none) :
    ∃ before after : List Effect, (∀ effect ∈ before, effect.isEvent = true) ∧
      (∀ effect ∈ after, effect.isEvent = true) ∧
      args.run program world =
        (before ++ (Step.effects (args.plan program world.files world.stdin).steps ++ after),
          (Step.raised (args.plan program world.files world.stdin).steps).foldl ExitStatus.worst
            .success) :=
  ⟨_, _, fun _ ↦ isEvent_of_mem_announcement, by simp [completion, Effect.isEvent],
    args.run_eq_of_unlimited program hsink⟩

/-- The results of the sources account for all that a run does to both streams, and for its
status. -/
theorem run_of_unlimited (args : Arguments) (program : String) {world : World}
    (hsink : world.stdout.room = none) :
    ∃ results, (args.sourceContext program world.files).YieldsAll world.stdin args.sources results ∧
      (∀ other, (args.sourceContext program world.files).YieldsAll world.stdin args.sources other →
        other = results) ∧
      stdoutText (args.run program world).1 = String.join (results.map SourceResult.output) ∧
      (∀ settings time,
        stderrText settings time ((args.run program world).1.filter fun effect ↦ !effect.isEvent) =
          String.join ((results.flatMap (SourceResult.notices program)).map fun line ↦
            line ++ "\n")) ∧
      (args.run program world).2 =
        if ∃ result ∈ results, result.failure ≠ none then .error else .success := by
  obtain ⟨results, hyields, htells⟩ := SourceContext.exists_yieldsAll
    (args.sourceContext program world.files) world.stdin args.sources
  obtain ⟨before, after, hbefore, hafter, hrun⟩ := args.exists_run_eq program hsink
  refine ⟨results, hyields, fun other ↦ hyields.unique, ?_, fun settings time ↦ ?_, ?_⟩
  · rw [hrun, stdoutText_append, stdoutText_append, stdoutText_of_events hbefore,
      stdoutText_of_events hafter, String.empty_append, String.append_empty]
    exact htells.stdout
  · rw [stderrText_of_no_events, hrun, diagnostics_append, diagnostics_append,
      diagnostics_of_events hbefore, diagnostics_of_events hafter, List.nil_append, List.append_nil]
    exact congrArg _ (congrArg _ htells.diagnostics)
  · rw [hrun]
    exact htells.foldl_worst

/-- A refused source, standard input twice, a missing file, and a log that cannot be read to its
end. -/
theorem run_of_unlimited_failing :
    ∃ (args : Arguments) (world : World) (results : List SourceResult),
      world.stdout.room = none ∧
      args.sources = [.file "a b", .stdin, .file "c", .stdin, .file "log"] ∧
      (args.sourceContext "replay" world.files).YieldsAll world.stdin args.sources results ∧
      stdoutText (args.run "replay" world).1 = String.join (results.map SourceResult.output) ∧
      String.join (results.map SourceResult.output) =
        "gdbus call --system --dest q.Q --object-path / --method a.b.M \n" ++
          "gdbus call --system --dest log --object-path /p --method a.b.N \n" ∧
      String.join ((results.flatMap (SourceResult.notices "replay")).map fun line ↦ line ++ "\n") =
        "replay: invalid bus name 'a b'\n" ++
          "replay: c: No such file or directory (os error 2)\n" ++
          "replay: log:1: Parse error: expected at least 4 fields " ++
          "(interface;path;method;result), found 2\n" ++
          "replay: log: Is a directory (os error 21)\n" ∧
      (args.run "replay" world).2 = .error ∧ ∃ result ∈ results, result.failure ≠ none := by
  let args : Arguments := ⟨true, false, some "q.Q", .gdbus, [.crash], ["a b", "-", "c", "-", "log"],
    none, false, none, false⟩
  let log : Stream := ⟨"x;Crash\na.b;/p;N;Crash\na.b;/p;L;Crash".toUTF8.toList, some .isADirectory⟩
  let world : World := ⟨[], fun _ ↦ none, none,
    ⟨fun _ ↦ false, fun path ↦ if path = "log" then .ok log else .error .notFound⟩,
    .ofBytes "a.b;/;M;Crash\n".toUTF8.toList, .unlimited, false, .plain⟩
  obtain ⟨results, hyields, -, hstdout, hstderr, hstatus⟩ :=
    @run_of_unlimited args "replay" world rfl
  have herror : (args.run "replay" world).2 = .error := by decide +kernel
  refine ⟨args, world, results, rfl, by decide +kernel, hyields, hstdout,
    hstdout.symm.trans (by decide +kernel), (hstderr .off "").symm.trans (by decide +kernel),
    herror, ?_⟩
  by_contra hnone
  rw [if_neg hnone, herror] at hstatus
  cases hstatus

end CommandLine.Arguments

end BusReplay
