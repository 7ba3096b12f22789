import BusReplay.Proofs.Run.Contents

/-!
# Blank characters around lines

A line is trimmed by whatever reads it: the filter of labels, the parser, and the log events that
repeat it. So blank characters around a line, and the way in which lines end in a source, change
nothing that is done.
-/

namespace BusReplay

namespace LineContext

variable (ctx : LineContext)

/-! ## Lines without their ends -/

/-- The end of a line has no part in its outcome. -/
theorem outcome_bareText (line : String) : ctx.outcome (bareText line) = ctx.outcome line :=
  Reproducer.reproduce_congr (trim_bareText line) ctx.reproducer ctx.busName

/-- Log events repeat a line without its end, or its label. -/
theorem steps_bareText (number : Nat) (line : String) :
    ctx.steps number (bareText line) = ctx.steps number line := by
  have htrimEnd : Text.trimEnd (bareText line).toList = Text.trimEnd line.toList := by
    rw [bareText, String.toList_ofList]
    exact List.rdropWhile_idempotent Text.isBlank line.toList
  unfold steps
  rw [ctx.outcome_bareText, htrimEnd, resultLabel_congr (trim_bareText line)]

theorem allSteps_map_bareText (lines : List String) (first : Nat) :
    ctx.allSteps (lines.map bareText) first = ctx.allSteps lines first := by
  induction lines generalizing first with
  | nil => rfl
  | cons line lines ih =>
    rw [List.map_cons, allSteps_cons, allSteps_cons, steps_bareText, ih]

theorem allStats_map_bareText (lines : List String) :
    ctx.allStats (lines.map bareText) = ctx.allStats lines := by
  have houtcome : ∀ line ∈ lines, (ctx.outcome ∘ bareText) line = ctx.outcome line := by
    intro line _
    rw [Function.comp_apply, outcome_bareText]
  rw [allStats_eq, allStats_eq, List.map_map, List.map_congr_left houtcome]

end LineContext

/-! ## Sources -/

namespace SourceContext

variable (ctx : SourceContext) {source : Source} (contents : source.Contents)

/-- A source does what its lines do without their ends. -/
theorem run_eq_of_bareText {bytes others : List UInt8}
    (h : ((cutLines bytes).map decodeLine).map bareText =
      ((cutLines others).map decodeLine).map bareText) :
    (ctx.holding contents bytes).run (contents.stdin bytes) source =
      (ctx.holding contents others).run (contents.stdin others) source := by
  have hstream (lineCtx : LineContext) : SourceRun.ofStream lineCtx (.ofBytes bytes) =
      SourceRun.ofStream lineCtx (.ofBytes others) := by
    have hsteps : lineCtx.allSteps ((cutLines bytes).map decodeLine) 1 =
        lineCtx.allSteps ((cutLines others).map decodeLine) 1 := by
      rw [← lineCtx.allSteps_map_bareText, h, lineCtx.allSteps_map_bareText]
    have hstats : lineCtx.allStats ((cutLines bytes).map decodeLine) =
        lineCtx.allStats ((cutLines others).map decodeLine) := by
      rw [← lineCtx.allStats_map_bareText, h, lineCtx.allStats_map_bareText]
    exact congrArg₂ (fun steps stats ↦ SourceRun.mk steps (.ok stats)) hsteps hstats
  have hopens := contents.opens ctx bytes
  have hopensOther := contents.opens ctx others
  unfold run holding
  dsimp only
  cases source.busName ctx.stdinName with
  | error e => rfl
  | ok busName =>
    dsimp only
    rw [hopens, hopensOther]
    dsimp only
    rw [hstream]

/-- Blank characters around a line change nothing that is read from it, nor what becomes of it; and
carriage returns in front of the newlines of a source change nothing that is done. -/
theorem blanks_around_lines_immaterial {before after : String}
    (hbefore : ∀ c ∈ before.toList, Text.isBlank c = true)
    (hafter : ∀ c ∈ after.toList, Text.isBlank c = true) (line : String) :
    resultLabel (before ++ line ++ after) = resultLabel line ∧
      (∀ busName, CallRecord.parse (before ++ line ++ after) busName =
        CallRecord.parse line busName) ∧
      (∀ (r : Reproducer) busName,
        r.reproduce (before ++ line ++ after) busName = r.reproduce line busName) ∧
      ∀ (ctx : SourceContext) (source : Source) (contents : source.Contents)
        (bytes : List UInt8) (sink : Sink),
        ctx.process contents (withCarriageReturns bytes) sink =
          ctx.process contents bytes sink := by
  have htrim : Text.trim (before ++ line ++ after).toList = Text.trim line.toList := by
    rw [String.toList_append, String.toList_append, Text.trim_surrounded hbefore hafter]
  refine ⟨resultLabel_congr htrim, CallRecord.parse_congr htrim, Reproducer.reproduce_congr htrim,
    fun ctx source contents bytes sink ↦ ?_⟩
  rw [process, ctx.run_eq_of_bareText contents (bareLines_withCarriageReturns bytes), process]

/-- A line between an em space and a next-line character; and a source in which a newline follows an
unfinished character, with a blank line, a rejected one and one that does not end behind it. -/
theorem blanks_around_lines_immaterial_unfinished :
    let r : Reproducer := ⟨Target.gdbus.profile, .system, .onlyCrash⟩
    let ctx : SourceContext := ⟨r, "replay", some "a.b", ⟨fun _ ↦ false, fun _ ↦ .error .notFound⟩⟩
    let process bytes := ctx.process (Source.Contents.everywhere .stdin) bytes .unlimited
    let bytes := "a.b;/;M;Crash".toUTF8.toList ++
      0xC3 :: "\n\nx;Crash\na.b;/;M;Crash".toUTF8.toList
    resultLabel ("\u2003\t" ++ "a.b;/;M;s;e9;Crash" ++ "\u0085\r\n") = "Crash" ∧
      r.reproduce ("\u2003\t" ++ "a.b;/;M;s;e9;Crash" ++ "\u0085\r\n") "a.b" =
        r.reproduce "a.b;/;M;s;e9;Crash" "a.b" ∧
      process (withCarriageReturns bytes) = process bytes ∧
      (process bytes).2 = .ok ⟨4, 1, 1, 1⟩ := by
  intro r ctx process bytes
  obtain ⟨hlabel, -, hreproduce, hprocess⟩ := @blanks_around_lines_immaterial "\u2003\t"
    "\u0085\r\n" (List.all_eq_true.1 (by decide +kernel)) (List.all_eq_true.1 (by decide +kernel))
    "a.b;/;M;s;e9;Crash"
  exact ⟨hlabel.trans (by decide +kernel), hreproduce r "a.b",
    hprocess ctx .stdin (.everywhere .stdin) bytes .unlimited, by decide +kernel⟩

end SourceContext

end BusReplay
