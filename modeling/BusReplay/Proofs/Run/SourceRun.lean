import BusReplay.Profile.Tools
import BusReplay.Proofs.Input.Lines
import BusReplay.Proofs.Reproducer.Message
import BusReplay.Proofs.Run.Execution
import BusReplay.Proofs.Run.Stats

/-!
# A source from end to end

What a source does to the output, to standard error and to the counts is told by the outcomes of
its lines. Each line adds its own part to all three of them, so they stay in step over the whole
source, and no content of a source makes it fail.
-/

namespace BusReplay

def complaint (program source : String) (number : Nat) (e : RunError) : String :=
  program ++ ": " ++ source ++ ":" ++ toString number ++ ": " ++ e.message

/-- The complaints about the lines of a source, the first of which has the given number. -/
def complaints (program source : String) (outcomes : List (Except RunError Outcome))
    (first : Nat) : List String :=
  (outcomes.zipIdx first).filterMap fun entry ↦
    (rejection? entry.1).map (complaint program source entry.2)

theorem complaints_cons (program source : String) (outcome : Except RunError Outcome)
    (outcomes : List (Except RunError Outcome)) (first : Nat) :
    complaints program source (outcome :: outcomes) first =
      ((rejection? outcome).map (complaint program source first)).toList ++
        complaints program source outcomes (first + 1) := by
  unfold complaints
  rw [List.zipIdx_cons, List.filterMap_cons]
  dsimp only
  cases rejection? outcome <;> rfl

theorem complaints_append (program source : String)
    (outcomes others : List (Except RunError Outcome)) (first : Nat) :
    complaints program source (outcomes ++ others) first =
      complaints program source outcomes first ++
        complaints program source others (first + outcomes.length) := by
  rw [complaints, List.zipIdx_append, List.filterMap_append, complaints, complaints]

/-- What lines with the given outcomes do to both streams, and their counts. -/
structure IsAccountOf (program source : String) (outcomes : List (Except RunError Outcome))
    (effects : List Effect) (stats : Stats) : Prop where
  stdout : stdoutText effects =
    String.join ((outcomes.filterMap command?).map fun command ↦ command ++ "\n")
  /-- Whatever the settings of the log are, its events aside. -/
  stderr : ∀ settings time, stderrText settings time (effects.filter fun effect ↦ !effect.isEvent) =
    String.join ((complaints program source outcomes 1).map fun complaint ↦ complaint ++ "\n")
  oneLine : ∀ complaint ∈ complaints program source outcomes 1, IsOneLine complaint
  lines : stats.lines = outcomes.length
  emitted : stats.emitted = (outcomes.filterMap command?).length
  filtered : stats.filtered = outcomes.count (.ok .filtered)
  rejected : stats.rejected = (outcomes.filterMap rejection?).length
  total : stats.lines =
    stats.emitted + stats.filtered + stats.rejected + outcomes.count (.ok .blank)

namespace LineContext

variable (ctx : LineContext)

theorem allSteps_cons (line : String) (lines : List String) (first : Nat) :
    ctx.allSteps (line :: lines) first =
      ctx.steps first line ++ ctx.allSteps lines (first + 1) := by
  unfold allSteps
  rw [List.zipIdx_cons, List.flatMap_cons]

/-! ## Single lines -/

theorem stdoutText_steps (number : Nat) (line : String) :
    stdoutText (Step.effects (ctx.steps number line)) =
      String.join ((command? (ctx.outcome line)).toList.map fun command ↦ command ++ "\n") := by
  unfold steps
  rcases ctx.outcome line with e | (text | _ | _) <;> rfl

theorem diagnostics_steps (number : Nat) (line : String) :
    diagnostics (Step.effects (ctx.steps number line)) =
      ((rejection? (ctx.outcome line)).map (ctx.diagnostic number)).toList := by
  unfold steps
  rcases ctx.outcome line with e | (text | _ | _) <;> rfl

/-! ## All lines -/

/-- The commands of lines are what is written for them, each on a line of its own. -/
theorem stdoutText_allSteps (lines : List String) (first : Nat) :
    stdoutText (Step.effects (ctx.allSteps lines first)) =
      String.join (((lines.map ctx.outcome).filterMap command?).map fun command ↦
        command ++ "\n") := by
  induction lines generalizing first with
  | nil => rfl
  | cons line lines ih =>
    rw [allSteps_cons, Step.effects_append, stdoutText_append, stdoutText_steps, ih, List.map_cons,
      List.filterMap_cons]
    apply String.toList_injective
    cases command? (ctx.outcome line) <;> simp [String.toList_join]

/-- What is said about lines is why they are rejected. -/
theorem diagnostics_allSteps (lines : List String) (first : Nat) :
    diagnostics (Step.effects (ctx.allSteps lines first)) =
      complaints ctx.program ctx.source (lines.map ctx.outcome) first := by
  induction lines generalizing first with
  | nil => rfl
  | cons line lines ih =>
    rw [allSteps_cons, Step.effects_append, diagnostics_append, diagnostics_steps, ih,
      List.map_cons, complaints_cons]
    rfl

theorem allStats_eq (lines : List String) :
    ctx.allStats lines = Stats.ofOutcomes (lines.map ctx.outcome) := by
  rw [allStats, ← Stats.sum_map_ofOutcome, List.map_map]
  rfl

end LineContext

/-- Complaints repeat the two names, a number, and a message. -/
theorem isOneLine_of_mem_complaints {program source : String}
    {outcomes : List (Except RunError Outcome)} {first : Nat} (hprogram : IsOneLine program)
    (hsource : IsOneLine source) (hmessages : ∀ e, .error e ∈ outcomes → IsOneLine e.message) :
    ∀ complaint ∈ complaints program source outcomes first, IsOneLine complaint := by
  intro complaint hcomplaint
  obtain ⟨⟨outcome, number⟩, hmem, hsome⟩ := List.mem_filterMap.1 hcomplaint
  dsimp only at hsome
  obtain ⟨e, he, rfl⟩ := Option.map_eq_some_iff.1 hsome
  have herror : outcome = .error e := by
    cases outcome with
    | error cause => exact congrArg Except.error (Option.some.inj he)
    | ok outcome => simp [rejection?] at he
  have hmessage : IsOneLine e.message := hmessages e (herror ▸ List.fst_mem_of_mem_zipIdx hmem)
  have hplace : IsOneLine (program ++ ": " ++ source ++ ":" ++ toString number ++ ": ") :=
    .append (.append (.append (.append (.append hprogram (by decide)) hsource) (by decide))
      (.toString_nat number)) (by decide)
  exact .append hplace hmessage

/-- The outcomes of lines account for all that is done about the lines. -/
theorem LineContext.isAccountOf (ctx : LineContext) (lines : List String) (event : Log.Event)
    (hprogram : IsOneLine ctx.program) (hsource : IsOneLine ctx.source)
    (hmessages : ∀ e, .error e ∈ lines.map ctx.outcome → IsOneLine e.message) :
    IsAccountOf ctx.program ctx.source (lines.map ctx.outcome)
      (Step.effects (.log event :: ctx.allSteps lines 1)) (ctx.allStats lines) where
  stdout := ctx.stdoutText_allSteps lines 1
  stderr settings time := by
    have hdiagnostics : diagnostics (Step.effects (.log event :: ctx.allSteps lines 1)) =
        complaints ctx.program ctx.source (lines.map ctx.outcome) 1 :=
      ctx.diagnostics_allSteps lines 1
    rw [stderrText_of_no_events, hdiagnostics]
  oneLine := isOneLine_of_mem_complaints hprogram hsource hmessages
  lines := by rw [allStats_eq, Stats.ofOutcomes]
  emitted := by rw [allStats_eq, Stats.ofOutcomes]
  filtered := by rw [allStats_eq, Stats.ofOutcomes]
  rejected := by rw [allStats_eq, Stats.ofOutcomes]
  total := by rw [allStats_eq, Stats.lines_ofOutcomes]

namespace SourceContext

/-- The steps of a source that can be opened and read to its end. -/
theorem run_of_bytes {ctx : SourceContext} {stdin : Stream} {source : Source} {busName : String}
    {bytes : List UInt8} (hname : source.busName ctx.stdinName = .ok busName)
    (hopen : ctx.openSource stdin source = .ok (.ofBytes bytes)) :
    ∃ event, ctx.run stdin source =
      ⟨.log event :: LineContext.allSteps ⟨ctx.reproducer, ctx.program, source.displayName, busName⟩
          ((cutLines bytes).map decodeLine) 1,
        .ok (LineContext.allStats ⟨ctx.reproducer, ctx.program, source.displayName, busName⟩
          ((cutLines bytes).map decodeLine))⟩ := by
  unfold run
  rw [hname]
  dsimp only
  rw [hopen]
  exact ⟨_, rfl⟩

/-- A source succeeds on any bytes, and the outcomes of its lines account for all it does. -/
theorem execute_run {ctx : SourceContext} {stdin : Stream} {source : Source} {busName : String}
    {bytes : List UInt8} {sink : Sink} (hname : source.busName ctx.stdinName = .ok busName)
    (hopen : ctx.openSource stdin source = .ok (.ofBytes bytes)) (hsink : sink.room = none)
    (hprogram : IsOneLine ctx.program) (hsource : IsOneLine source.displayName) :
    ∃ lines effects stats, IsLineCut bytes lines ∧
      (∀ other, IsLineCut bytes other → other = lines) ∧
      (ctx.run stdin source).execute sink = (effects, .ok stats) ∧
      IsAccountOf ctx.program source.displayName
        (lines.map fun line ↦ ctx.reproducer.reproduce (decodeLine line) busName)
        effects stats := by
  obtain ⟨event, hrun⟩ := run_of_bytes hname hopen
  have hmessages : ∀ e, .error e ∈ (cutLines bytes).map (fun line ↦
      ctx.reproducer.reproduce (decodeLine line) busName) → IsOneLine e.message := by
    intro e he
    obtain ⟨line, hline, houtcome⟩ := List.mem_map.1 he
    have hbody : newlineByte ∉ line.dropLast := (isLineCut_cutLines bytes).body line hline
    exact Reproducer.isOneLine_message houtcome (newline_notMem_trim_decodeLine hbody)
  have haccount := LineContext.isAccountOf
    ⟨ctx.reproducer, ctx.program, source.displayName, busName⟩ ((cutLines bytes).map decodeLine)
    event hprogram hsource (by rwa [List.map_map])
  rw [List.map_map] at haccount
  refine ⟨cutLines bytes, _, _, isLineCut_cutLines bytes, fun other hother ↦ hother.eq_cutLines,
    ?_, haccount⟩
  rw [SourceRun.execute_of_unlimited hsink, hrun]

/-- A command, a blank line, a filtered line with a stray byte, and a rejected line without a
newline. -/
theorem execute_run_mixed :
    ∃ (ctx : SourceContext) (bytes : List UInt8) (lines : List (List UInt8))
      (effects : List Effect) (stats : Stats),
      bytes = "a.b;/p;M;Crash\n \n".toUTF8.toList ++ 255 :: ";Success\r\nx;Crash".toUTF8.toList ∧
      IsLineCut bytes lines ∧ (∀ other, IsLineCut bytes other → other = lines) ∧
      (ctx.run (.ofBytes bytes) .stdin).execute .unlimited = (effects, .ok stats) ∧
      stats = ⟨4, 1, 1, 1⟩ ∧
      IsAccountOf ctx.program Source.stdin.displayName
        (lines.map fun line ↦ ctx.reproducer.reproduce (decodeLine line) "a.b") effects stats := by
  have hname : Source.stdin.busName (some "a.b") = .ok "a.b" := by decide +kernel
  obtain ⟨lines, effects, stats, hcut, hunique, hrun, haccount⟩ :=
    @execute_run ⟨⟨Target.gdbus.profile, .system, .onlyCrash⟩, "replay", some "a.b",
        ⟨fun _ ↦ false, fun _ ↦ .error .notFound⟩⟩
      (.ofBytes _) .stdin "a.b"
      ("a.b;/p;M;Crash\n \n".toUTF8.toList ++ 255 :: ";Success\r\nx;Crash".toUTF8.toList)
      .unlimited hname rfl rfl (by decide) (by decide)
  have hstats : Except.ok stats = (.ok ⟨4, 1, 1, 1⟩ : Except RunError Stats) :=
    (congrArg Prod.snd hrun).symm.trans (by decide +kernel)
  exact ⟨_, _, lines, effects, stats, rfl, hcut, hunique, hrun, Except.ok.inj hstats, haccount⟩

end SourceContext

end BusReplay
