import BusReplay.Proofs.Run.Program

/-!
# A source and the bytes that it holds

All that a source does is done line by line, and nothing is handed on from one line to the next but
the number of the line. So a log that is put behind another one does what it does alone, with larger
numbers.
-/

namespace BusReplay

/-- The places that a source can be read from, one for each content that it may have. -/
structure Source.Contents (source : Source) where
  files : List UInt8 → FileSystem
  stdin : List UInt8 → Stream
  /-- Nothing but the bytes is there to be read. -/
  opens : ∀ (ctx : SourceContext) (bytes : List UInt8),
    ({ ctx with files := files bytes } : SourceContext).openSource (stdin bytes) source =
      .ok (.ofBytes bytes)

/-- Standard input and all files hold the same bytes. -/
def Source.Contents.everywhere (source : Source) : source.Contents where
  files bytes := ⟨fun _ ↦ true, fun _ ↦ .ok (.ofBytes bytes)⟩
  stdin := .ofBytes
  opens _ _ := by cases source <;> rfl

namespace SourceContext

variable (ctx : SourceContext) {source : Source} (contents : source.Contents) {sink : Sink}

/-- What a source with some content is processed with. -/
def holding (bytes : List UInt8) : SourceContext := { ctx with files := contents.files bytes }

def process (bytes : List UInt8) (sink : Sink) : List Effect × Except RunError Stats :=
  ((ctx.holding contents bytes).run (contents.stdin bytes) source).execute sink

/-- The outcomes of the lines of a content; there are none if the bus name is refused. -/
def outcomesOf (source : Source) (bytes : List UInt8) : List (Except RunError Outcome) :=
  match source.busName ctx.stdinName with
  | .ok busName =>
    (cutLines bytes).map fun line ↦ ctx.reproducer.reproduce (decodeLine line) busName
  | .error _ => []

/-- Why a source is refused, whatever it holds. -/
def refusal? (source : Source) : Option RunError :=
  match source.busName ctx.stdinName with
  | .ok _ => none
  | .error e => some e

/-- What a source yields is told by its content. -/
theorem yields_holding (bytes : List UInt8) :
    (ctx.holding contents bytes).Yields (contents.stdin bytes)
      ⟨source, ctx.outcomesOf source bytes, ctx.refusal? source⟩ := by
  unfold outcomesOf refusal?
  cases hname : source.busName ctx.stdinName with
  | error e => exact .refused hname
  | ok busName => exact .finished hname (contents.opens ctx bytes) rfl (isLineCut_cutLines bytes)

/-- Behind the end of a line more bytes add lines and change none. -/
theorem outcomesOf_append {front : List UInt8} (back : List UInt8) (hfront : EndsLine front) :
    ctx.outcomesOf source (front ++ back) =
      ctx.outcomesOf source front ++ ctx.outcomesOf source back := by
  unfold outcomesOf
  cases source.busName ctx.stdinName with
  | error e => rfl
  | ok busName => exact (congrArg _ (cutLines_append hfront back)).trans List.map_append

/-- An output that never fails shows the outcomes of all lines. -/
theorem Performs.execute_of_unlimited {program : String} {result : SourceResult} {run : SourceRun}
    (h : Performs program result run) (hsink : sink.room = none) :
    stdoutText (run.execute sink).1 = result.output ∧
      diagnostics (run.execute sink).1 =
        complaints program result.source.displayName result.outcomes 1 ∧
      (run.execute sink).2 =
        (result.failure.map Except.error).getD (.ok (Stats.ofOutcomes result.outcomes)) := by
  rw [SourceRun.execute_of_unlimited hsink]
  obtain @⟨lines, texts, events, source, failure, rfl, hsource⟩ := h
  have hevents : ∀ effect ∈ Step.effects (events.map .log), effect.isEvent = true := by
    simp [Step.effects_map_log, Effect.isEvent]
  refine ⟨?_, ?_, ?_⟩
  · rw [Step.effects_append, stdoutText_append, stdoutText_of_events hevents, String.empty_append,
      LineContext.stdoutText_allSteps]
    rfl
  · rw [Step.effects_append, diagnostics_append, diagnostics_of_events hevents, List.nil_append,
      LineContext.diagnostics_allSteps, hsource]
  · rw [LineContext.allStats_eq]

/-- Processing a source with some content shows the outcomes of its lines, or why it is refused. -/
theorem process_of_unlimited (hsink : sink.room = none) (bytes : List UInt8) :
    stdoutText (ctx.process contents bytes sink).1 =
        String.join (((ctx.outcomesOf source bytes).filterMap command?).map fun command ↦
          command ++ "\n") ∧
      diagnostics (ctx.process contents bytes sink).1 =
        complaints ctx.program source.displayName (ctx.outcomesOf source bytes) 1 ∧
      (ctx.process contents bytes sink).2 = ((ctx.refusal? source).map Except.error).getD
        (.ok (Stats.ofOutcomes (ctx.outcomesOf source bytes))) := by
  obtain ⟨result, hsource, hyields, hperforms⟩ :=
    (ctx.holding contents bytes).exists_performs (contents.stdin bytes) source
  obtain rfl := (ctx.yields_holding contents bytes).unique hyields hsource
  exact hperforms.execute_of_unlimited hsink

/-- Two logs one behind the other, the first of which ends with its newline, do what each of them
does alone: the outcomes of the lines are put together, and so is what is written; the counts are
added; and the complaints about the second log follow those about the first, with line numbers that
are larger by the number of lines of the first. -/
theorem process_append {front : List UInt8} (back : List UInt8) (hsink : sink.room = none)
    (hfront : EndsLine front) :
    ∃ outcomes others failure,
      (ctx.holding contents front).Yields (contents.stdin front) ⟨source, outcomes, failure⟩ ∧
      (ctx.holding contents back).Yields (contents.stdin back) ⟨source, others, failure⟩ ∧
      (ctx.holding contents (front ++ back)).Yields (contents.stdin (front ++ back))
        ⟨source, outcomes ++ others, failure⟩ ∧
      (∀ busName, source.busName ctx.stdinName = .ok busName →
        (ctx.process contents front sink).2 = .ok (Stats.ofOutcomes outcomes) ∧
        (ctx.process contents back sink).2 = .ok (Stats.ofOutcomes others)) ∧
      stdoutText (ctx.process contents (front ++ back) sink).1 =
        stdoutText (ctx.process contents front sink).1 ++
          stdoutText (ctx.process contents back sink).1 ∧
      (ctx.process contents (front ++ back) sink).2 = (do
        return (← (ctx.process contents front sink).2).add
          (← (ctx.process contents back sink).2)) ∧
      diagnostics (ctx.process contents front sink).1 =
        complaints ctx.program source.displayName outcomes 1 ∧
      diagnostics (ctx.process contents back sink).1 =
        complaints ctx.program source.displayName others 1 ∧
      diagnostics (ctx.process contents (front ++ back) sink).1 =
        complaints ctx.program source.displayName outcomes 1 ++
          complaints ctx.program source.displayName others (1 + outcomes.length) := by
  obtain ⟨hstdout, hdiagnostics, hstats⟩ := ctx.process_of_unlimited contents hsink front
  obtain ⟨hstdoutBack, hdiagnosticsBack, hstatsBack⟩ := ctx.process_of_unlimited contents hsink back
  obtain ⟨hstdoutBoth, hdiagnosticsBoth, hstatsBoth⟩ :=
    ctx.process_of_unlimited contents hsink (front ++ back)
  have hyields := ctx.yields_holding contents (front ++ back)
  rw [ctx.outcomesOf_append back hfront] at hyields hstdoutBoth hdiagnosticsBoth hstatsBoth
  refine ⟨_, _, _, ctx.yields_holding contents front, ctx.yields_holding contents back, hyields,
    fun busName hname ↦ ?_, ?_, ?_, hdiagnostics, hdiagnosticsBack, ?_⟩
  · have hnamed : ctx.refusal? source = none := by rw [refusal?, hname]
    rw [hstats, hstatsBack, hnamed]
    exact ⟨rfl, rfl⟩
  · rw [hstdoutBoth, hstdout, hstdoutBack]
    apply String.toList_injective
    simp [String.toList_join]
  · rw [hstatsBoth, hstats, hstatsBack, Stats.ofOutcomes_append]
    cases ctx.refusal? source <;> rfl
  · rw [hdiagnosticsBoth, complaints_append]

/-- A rejected line and a blank one, and behind them a command and a rejected line that does not
end. -/
theorem process_append_rejected :
    let ctx : SourceContext := ⟨⟨Target.gdbus.profile, .system, .onlyCrash⟩, "replay", some "a.b",
      ⟨fun _ ↦ false, fun _ ↦ .error .notFound⟩⟩
    let process bytes := ctx.process (Source.Contents.everywhere .stdin) bytes .unlimited
    let front := "x;Crash\n \r\n".toUTF8.toList
    let back := "a.b;/;M;Crash\n;Crash".toUTF8.toList
    Sink.unlimited.room = none ∧ EndsLine front ∧
      (process front).2 = .ok ⟨2, 0, 0, 1⟩ ∧ (process back).2 = .ok ⟨2, 1, 0, 1⟩ ∧
      (process (front ++ back)).2 = .ok ⟨4, 1, 0, 2⟩ ∧
      stdoutText (process (front ++ back)).1 =
        "gdbus call --system --dest a.b --object-path / --method a.b.M \n" ∧
      diagnostics (process (front ++ back)).1 =
        [1, 4].map fun number ↦ "replay: <stdin>:" ++ toString number ++ ": Parse error: " ++
          "expected at least 4 fields (interface;path;method;result), found 2" := by
  intro ctx process front back
  have hsink : Sink.unlimited.room = none := rfl
  have hfront : EndsLine front := by decide +kernel
  have hstatsFront : (process front).2 = .ok ⟨2, 0, 0, 1⟩ := by decide +kernel
  have hstatsBack : (process back).2 = .ok ⟨2, 1, 0, 1⟩ := by decide +kernel
  obtain ⟨outcomes, others, failure, -, -, -, -, hstdout, hstats, -⟩ :=
    ctx.process_append (Source.Contents.everywhere .stdin) back hsink hfront
  have hsum : (do return (← (process front).2).add (← (process back).2)) =
      (.ok ⟨4, 1, 0, 2⟩ : Except RunError Stats) := by
    rw [hstatsFront, hstatsBack]
    rfl
  exact ⟨hsink, hfront, hstatsFront, hstatsBack, hstats.trans hsum,
    hstdout.trans (by decide +kernel), by decide +kernel⟩

end SourceContext

end BusReplay
