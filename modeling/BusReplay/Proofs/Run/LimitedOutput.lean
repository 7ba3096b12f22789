import BusReplay.Proofs.Run.FirstCommand
import BusReplay.Proofs.Text.Fields

/-!
# A source whose output runs out of room

An output with room for some bytes takes the write calls of a plan as long as they fit, and the
first one that does not fit ends the execution. What is written is therefore the longest part at
the front of the write calls that fits. In a source the call that fails writes a command or the
newline behind it, so everything up to the line of that command is done and nothing behind it.
-/

namespace BusReplay

def byteCount (texts : List String) : Nat := (texts.map String.utf8ByteSize).sum

theorem byteCount_cons (text : String) (texts : List String) :
    byteCount (text :: texts) = text.utf8ByteSize + byteCount texts := by
  rw [byteCount, List.map_cons, List.sum_cons, byteCount]

theorem byteCount_append (texts others : List String) :
    byteCount (texts ++ others) = byteCount texts + byteCount others := by
  rw [byteCount, List.map_append, List.sum_append, byteCount, byteCount]

theorem byteCount_singleton (text : String) : byteCount [text] = text.utf8ByteSize := by
  simp [byteCount]

/-- The longest part at the front of some texts that has no more than a number of bytes. -/
structure IsLongestFit (limit : Nat) (texts front : List String) : Prop where
  isPrefix : front <+: texts
  fits : byteCount front ≤ limit
  longest : ∀ other, other <+: texts → byteCount other ≤ limit → other <+: front

namespace IsLongestFit

variable {limit : Nat} {texts front rest : List String} {text : String}

theorem of_fits (h : byteCount texts ≤ limit) : IsLongestFit limit texts texts :=
  ⟨List.prefix_refl texts, h, fun _ hother _ ↦ hother⟩

/-- Texts that fit are the longest such part once the next text does not fit behind them. -/
theorem of_overflow (hfits : byteCount front ≤ limit)
    (hover : limit < byteCount front + text.utf8ByteSize) :
    IsLongestFit limit (front ++ text :: rest) front := by
  refine ⟨List.prefix_append front _, hfits, fun other hother hsize ↦ ?_⟩
  rcases Text.prefix_append_cases hother with hfront | ⟨next, hnext, hmore⟩
  · exact hfront
  · obtain ⟨rfl, -⟩ := List.cons_prefix_cons.1 hnext
    obtain ⟨more, rfl⟩ := hmore
    rw [byteCount_append, byteCount_append, byteCount_singleton] at hsize
    omega

end IsLongestFit

/-! ## Plans -/

/-- The write calls that an output has taken. -/
def written (effects : List Effect) : List String := effects.filterMap Effect.outputText?

theorem written_append (effects others : List Effect) :
    written (effects ++ others) = written effects ++ written others :=
  List.filterMap_append

def Step.writes (steps : List Step) : List String := written (Step.effects steps)

theorem Step.writes_cons_of_quiet {step : Step} (hstep : step.isWrite = false) (steps : List Step) :
    Step.writes (step :: steps) = Step.writes steps := by
  cases step with
  | write text => cases hstep
  | report text | log event | raise status => rfl

theorem Step.writes_append (steps others : List Step) :
    Step.writes (steps ++ others) = Step.writes steps ++ Step.writes others := by
  rw [writes, effects_append, written_append, writes, writes]

theorem Step.writes_map_log (events : List Log.Event) : Step.writes (events.map log) = [] := by
  rw [writes, effects_map_log, written, List.filterMap_map, List.filterMap_eq_nil_iff]
  intro event _
  rfl

theorem Step.effects_map_write (texts : List String) :
    effects (texts.map write) = texts.map Effect.output := by
  rw [effects, List.filterMap_map, ← List.filterMap_eq_map]
  rfl

theorem Step.writes_write_cons (text : String) (steps : List Step) :
    Step.writes (.write text :: steps) = text :: Step.writes steps := rfl

namespace Execution

variable {room limit : Nat} {front rest steps : List Step} {text : String}

/-- Steps whose writes fit are all done, and leave the rest of the room. -/
theorem resume_append_of_fits (done : List Effect) (status : ExitStatus) (fault : IoError)
    (hfits : byteCount (Step.writes front) ≤ room) (rest : List Step) :
    resume done status ⟨some room, fault⟩ (front ++ rest) =
      resume ((Step.effects front).reverse ++ done)
        ((Step.raised front).foldl ExitStatus.worst status)
        ⟨some (room - byteCount (Step.writes front)), fault⟩ rest := by
  induction front generalizing done status room with
  | nil => rfl
  | cons step front ih =>
    cases step with
    | write text =>
      rw [Step.writes_write_cons, byteCount_cons] at hfits ⊢
      have hwrite : (⟨some room, fault⟩ : Sink).write text =
          .ok ⟨some (room - text.utf8ByteSize), fault⟩ :=
        if_pos (by omega)
      have hroom : byteCount (Step.writes front) ≤ room - text.utf8ByteSize := by omega
      rw [List.cons_append, resume, hwrite]
      simp [ih _ _ hroom, Step.effects_cons, Step.effect?, Step.raised_cons, Step.status?,
        Nat.sub_sub]
    | report text | log event | raise status =>
      rw [Step.writes_cons_of_quiet rfl] at hfits ⊢
      simp [resume, ih _ _ hfits, Step.effects_cons, Step.effect?, Step.raised_cons, Step.status?]

/-- Where the writes of a plan do not fit, there is a first one that does not. -/
theorem exists_overflow (hover : room < byteCount (Step.writes steps)) :
    ∃ front text rest, steps = front ++ .write text :: rest ∧
      byteCount (Step.writes front) ≤ room ∧
      room < byteCount (Step.writes front) + text.utf8ByteSize := by
  induction steps generalizing room with
  | nil => exact absurd hover (Nat.not_lt_zero room)
  | cons step steps ih =>
    cases step with
    | write text =>
      rw [Step.writes_write_cons, byteCount_cons] at hover
      by_cases hfits : text.utf8ByteSize ≤ room
      · obtain ⟨front, next, rest, rfl, hfront, hnext⟩ := @ih (room - text.utf8ByteSize) (by omega)
        refine ⟨.write text :: front, next, rest, rfl, ?_, ?_⟩
        · rw [Step.writes_write_cons, byteCount_cons]
          omega
        · rw [Step.writes_write_cons, byteCount_cons]
          omega
      · have hnone : byteCount (Step.writes []) = 0 := rfl
        exact ⟨[], text, steps, rfl, by omega, by omega⟩
    | report text | log event | raise status =>
      rw [Step.writes_cons_of_quiet rfl] at hover
      obtain ⟨front, next, rest, rfl, hfront, hnext⟩ := ih hover
      refine ⟨_ :: front, next, rest, rfl, ?_, ?_⟩
      · rwa [Step.writes_cons_of_quiet rfl]
      · rwa [Step.writes_cons_of_quiet rfl]

end Execution

namespace SourceRun

variable {run : SourceRun} {limit : Nat} {front rest : List Step} {text : String}

/-- A run whose writes fit is the run with an output that never fails. -/
theorem execute_of_fits (fault : IoError) (hfits : byteCount (Step.writes run.steps) ≤ limit) :
    run.execute ⟨some limit, fault⟩ = run.execute .unlimited := by
  have hresume := Execution.resume_append_of_fits [] .success fault hfits []
  rw [List.append_nil, List.append_nil] at hresume
  have hunlimited : run.execute .unlimited = (Step.effects run.steps, run.outcome) :=
    execute_of_unlimited rfl run
  rw [hunlimited, execute, Execution.ofSteps, hresume, Execution.resume, List.reverse_reverse]

/-- The first write that does not fit is the last thing that a run attempts. -/
theorem execute_of_overflow (fault : IoError) (hsteps : run.steps = front ++ .write text :: rest)
    (hfits : byteCount (Step.writes front) ≤ limit)
    (hover : limit < byteCount (Step.writes front) + text.utf8ByteSize) :
    run.execute ⟨some limit, fault⟩ = (Step.effects front, .error (.io fault)) := by
  have hwrite : (⟨some (limit - byteCount (Step.writes front)), fault⟩ : Sink).write text =
      .error fault :=
    if_neg (by omega)
  rw [execute, Execution.ofSteps, hsteps, Execution.resume_append_of_fits [] .success fault hfits,
    Execution.resume, hwrite, List.append_nil, List.reverse_reverse]

end SourceRun

/-! ## Lines -/

/-- The write calls for lines with the given outcomes: every command, and a newline behind it. -/
def writeCalls (outcomes : List (Except RunError Outcome)) : List String :=
  (outcomes.filterMap command?).flatMap fun command ↦ [command, "\n"]

theorem writeCalls_append (outcomes others : List (Except RunError Outcome)) :
    writeCalls (outcomes ++ others) = writeCalls outcomes ++ writeCalls others := by
  rw [writeCalls, List.filterMap_append, List.flatMap_append, writeCalls, writeCalls]

namespace LineContext

variable (ctx : LineContext)

theorem writes_steps (number : Nat) (line : String) :
    Step.writes (ctx.steps number line) = writeCalls [ctx.outcome line] := by
  unfold steps
  rcases ctx.outcome line with e | (text | _ | _) <;> rfl

/-- What is written for lines are their commands, each with a newline in a write of its own. -/
theorem writes_allSteps (lines : List String) (first : Nat) :
    Step.writes (ctx.allSteps lines first) = writeCalls (lines.map ctx.outcome) := by
  induction lines generalizing first with
  | nil => rfl
  | cons line lines ih =>
    rw [allSteps_cons, Step.writes_append, writes_steps, ih, ← writeCalls_append]
    rfl

/-- A write stands in the steps of one line, which became a command. It writes the command, or the
newline behind it. -/
theorem exists_line_of_allSteps {lines : List String} {first : Nat} {front rest : List Step}
    {text : String} (h : ctx.allSteps lines first = front ++ .write text :: rest) :
    ∃ before line after command taken, lines = before ++ line :: after ∧
      ctx.outcome line = .ok (.command command) ∧
      front = ctx.allSteps before first ++ taken.map .write ∧ (taken = [] ∨ taken = [command]) := by
  induction lines generalizing first front with
  | nil => exact absurd h.symm (by simp [allSteps])
  | cons line lines ih =>
    have hlater {between : List Step} (hfront : front = ctx.steps first line ++ between)
        (hrest : ctx.allSteps lines (first + 1) = between ++ .write text :: rest) :
        ∃ before other after command taken, line :: lines = before ++ other :: after ∧
          ctx.outcome other = .ok (.command command) ∧
          front = ctx.allSteps before first ++ taken.map .write ∧
          (taken = [] ∨ taken = [command]) := by
      obtain ⟨before, other, after, command, taken, rfl, hcommand, rfl, htaken⟩ := ih hrest
      refine ⟨line :: before, other, after, command, taken, rfl, hcommand, ?_, htaken⟩
      rw [hfront, allSteps_cons, List.append_assoc]
    rw [allSteps_cons] at h
    cases hcommand : command? (ctx.outcome line) with
    | none =>
      have hquiet : .write text ∉ ctx.steps first line := fun hmem ↦
        absurd (ctx.areQuiet_steps hcommand _ hmem) (by simp [Step.isWrite])
      obtain ⟨between, hfront, hrest⟩ := Text.exists_of_append_eq_append_cons hquiet h
      exact hlater hfront hrest
    | some command =>
      have houtcome : ctx.outcome line = .ok (.command command) := command?_eq_some_iff.1 hcommand
      have hsteps : ctx.steps first line = [.write command, .write "\n"] := by
        rw [steps, houtcome]
      rw [hsteps] at h hlater
      -- The write is that of the command, that of the newline, or one for a later line.
      cases front with
      | nil => exact ⟨[], line, lines, command, [], rfl, houtcome, rfl, .inl rfl⟩
      | cons step front =>
        obtain ⟨hstep, hnewline⟩ := List.cons.inj h
        cases front with
        | nil =>
          rw [← hstep]
          exact ⟨[], line, lines, command, [command], rfl, houtcome, rfl, .inr rfl⟩
        | cons newline between =>
          obtain ⟨rfl, hrest⟩ := List.cons.inj hnewline
          exact hlater (hstep ▸ rfl) hrest

end LineContext

namespace SourceContext

variable {program : String} {result : SourceResult} {run : SourceRun} {limit : Nat}

theorem Performs.writes_steps (h : Performs program result run) :
    Step.writes run.steps = writeCalls result.outcomes := by
  obtain ⟨lines, texts, events, -, -⟩ := h
  rw [Step.writes_append, Step.writes_map_log, List.nil_append, LineContext.writes_allSteps]

/-- Steps in front of a write are those of whole lines, and perhaps the write of a command. -/
theorem Performs.exists_line {front rest : List Step} {text : String}
    (h : Performs program result run) (hsteps : run.steps = front ++ .write text :: rest) :
    ∃ before command after, result.outcomes = before ++ .ok (.command command) :: after ∧
      (Step.writes front = writeCalls before ∨
        Step.writes front = writeCalls before ++ [command]) ∧
      diagnostics (Step.effects front) = complaints program result.source.displayName before 1 := by
  obtain @⟨lines, texts, events, source, failure, rfl, hsource⟩ := h
  have hlog : .write text ∉ events.map Step.log := by simp
  obtain ⟨between, rfl, hlines⟩ := Text.exists_of_append_eq_append_cons hlog hsteps
  obtain ⟨before, line, after, command, taken, rfl, hcommand, rfl, htaken⟩ :=
    lines.exists_line_of_allSteps hlines
  have houtcomes : (before ++ line :: after).map lines.outcome =
      before.map lines.outcome ++ .ok (.command command) :: after.map lines.outcome := by
    rw [List.map_append, List.map_cons, hcommand]
  have houtput : written (taken.map Effect.output) = taken := by
    simp [written, List.filterMap_map, Function.comp_def, Effect.outputText?]
  have hwrites : Step.writes (events.map .log ++ (lines.allSteps before 1 ++ taken.map .write)) =
      writeCalls (before.map lines.outcome) ++ taken := by
    rw [Step.writes_append, Step.writes_append, Step.writes_map_log, LineContext.writes_allSteps,
      List.nil_append, Step.writes, Step.effects_map_write, houtput]
  have hevents : ∀ effect ∈ Step.effects (events.map .log), effect.isEvent = true := by
    simp [Step.effects_map_log, Effect.isEvent]
  have hsilent : diagnostics (taken.map Effect.output) = [] := by
    simp [diagnostics, List.filterMap_map, Function.comp_def, Effect.diagnosticText?]
  refine ⟨before.map lines.outcome, command, after.map lines.outcome, houtcomes, ?_, ?_⟩
  · rw [hwrites]
    exact htaken.imp (fun hnone ↦ by rw [hnone, List.append_nil]) (fun hone ↦ by rw [hone])
  · rw [Step.effects_append, Step.effects_append, diagnostics_append, diagnostics_append,
      diagnostics_of_events hevents, LineContext.diagnostics_allSteps, Step.effects_map_write,
      hsilent, List.append_nil, List.nil_append, hsource]

/-- An output with room for a number of bytes takes the longest part at the front of the write
calls of a source that fits. If all of them fit, the run is the one with an output that never fails.
Otherwise it fails in the line of a command: it has written the commands of the lines in front of
that line, each with its newline, and perhaps the command, and has complained about those lines. -/
theorem execute_of_limit (ctx : SourceContext) (stdin : Stream) (source : Source) (limit : Nat)
    (fault : IoError) :
    ∃ result, result.source = source ∧ ctx.Yields stdin result ∧
      (∀ other, ctx.Yields stdin other → other.source = source → other = result) ∧
      written ((ctx.run stdin source).execute .unlimited).1 = writeCalls result.outcomes ∧
      ((ctx.run stdin source).execute .unlimited).2 =
        (result.failure.map Except.error).getD (.ok (Stats.ofOutcomes result.outcomes)) ∧
      IsLongestFit limit (writeCalls result.outcomes)
        (written ((ctx.run stdin source).execute ⟨some limit, fault⟩).1) ∧
      (byteCount (writeCalls result.outcomes) ≤ limit →
        (ctx.run stdin source).execute ⟨some limit, fault⟩ =
          (ctx.run stdin source).execute .unlimited) ∧
      (limit < byteCount (writeCalls result.outcomes) → ∃ effects before command after,
        (ctx.run stdin source).execute ⟨some limit, fault⟩ = (effects, .error (.io fault)) ∧
        effects <+: ((ctx.run stdin source).execute .unlimited).1 ∧
        result.outcomes = before ++ .ok (.command command) :: after ∧
        (written effects = writeCalls before ∨ written effects = writeCalls before ++ [command]) ∧
        diagnostics effects = complaints ctx.program source.displayName before 1) := by
  obtain ⟨result, rfl, hyields, hperforms⟩ := ctx.exists_performs stdin source
  generalize ctx.run stdin result.source = run at hperforms ⊢
  have hunlimited : run.execute .unlimited = (Step.effects run.steps, run.outcome) :=
    SourceRun.execute_of_unlimited rfl run
  have hwrites : written (Step.effects run.steps) = writeCalls result.outcomes :=
    hperforms.writes_steps
  have hoverflow (hover : limit < byteCount (writeCalls result.outcomes)) :
      ∃ front text rest, run.steps = front ++ .write text :: rest ∧
        byteCount (Step.writes front) ≤ limit ∧
        limit < byteCount (Step.writes front) + text.utf8ByteSize :=
    Execution.exists_overflow (by rwa [hperforms.writes_steps])
  have houtcome : run.outcome =
      (result.failure.map Except.error).getD (.ok (Stats.ofOutcomes result.outcomes)) := by
    obtain ⟨lines, texts, events, -, -⟩ := hperforms
    rw [LineContext.allStats_eq]
  refine ⟨result, rfl, hyields, fun other hother hsource ↦ hyields.unique hother hsource, ?_⟩
  rw [hunlimited]
  refine ⟨hwrites, houtcome, ?_, fun hfits ↦ ?_, fun hover ↦ ?_⟩
  · rcases Nat.lt_or_ge limit (byteCount (writeCalls result.outcomes)) with hover | hfits
    · obtain ⟨front, text, rest, hsteps, hfront, hnext⟩ := hoverflow hover
      rw [run.execute_of_overflow fault hsteps hfront hnext, ← hwrites, hsteps,
        Step.effects_append, written_append]
      exact .of_overflow hfront hnext
    · rw [run.execute_of_fits fault (by rwa [hperforms.writes_steps]), hunlimited, hwrites]
      exact .of_fits hfits
  · rw [run.execute_of_fits fault (by rwa [hperforms.writes_steps]), hunlimited]
  · obtain ⟨front, text, rest, hsteps, hfront, hnext⟩ := hoverflow hover
    obtain ⟨before, command, after, hcut, htaken, hcomplaints⟩ := hperforms.exists_line hsteps
    refine ⟨_, before, command, after, run.execute_of_overflow fault hsteps hfront hnext, ?_, hcut,
      htaken, hcomplaints⟩
    rw [hsteps, Step.effects_append]
    exact List.prefix_append _ _

/-- Room for a command without its newline. -/
theorem execute_of_limit_newline :
    let ctx : SourceContext := ⟨⟨Target.gdbus.profile, .system, .onlyCrash⟩, "replay", some "a.b",
      ⟨fun _ ↦ false, fun _ ↦ .error .notFound⟩⟩
    let run := ctx.run (.ofBytes "x;Crash\na.b;/p;M;Crash\ny;Crash\n".toUTF8.toList) .stdin
    63 < byteCount (written (run.execute .unlimited).1) ∧
      (run.execute ⟨some 63, .noSpace⟩).2 = .error (.io .noSpace) ∧
      written (run.execute ⟨some 63, .noSpace⟩).1 =
        ["gdbus call --system --dest a.b --object-path /p --method a.b.M "] := by
  intro ctx run
  have hover : 63 < byteCount (written (run.execute .unlimited).1) := by decide +kernel
  obtain ⟨result, -, -, -, hwritten, -, -, -, hfails⟩ := ctx.execute_of_limit
    (.ofBytes "x;Crash\na.b;/p;M;Crash\ny;Crash\n".toUTF8.toList) .stdin 63 .noSpace
  obtain ⟨effects, before, command, after, hexecute, -⟩ := hfails (hwritten ▸ hover)
  exact ⟨hover, congrArg Prod.snd hexecute, by decide +kernel⟩

end SourceContext

end BusReplay
