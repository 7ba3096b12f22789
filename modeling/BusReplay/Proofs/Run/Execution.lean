import BusReplay.Run.SourceRun
import Mathlib.Data.List.Basic

/-!
# Plans and their effects

An output that never fails turns every step of a plan into its effect, in order, so both streams of
a plan can be read off its steps. What is written to a stream by one plan and then by another is
written by the two of them together. Steps that write nothing are carried out whatever the output
is, and no output makes a plan end in a status that it does not raise.
-/

namespace BusReplay

/-- The effect of a step whose write is taken. -/
def Step.effect? : Step → Option Effect
  | write text => some (.output text)
  | report text => some (.diagnostic text)
  | log event => some (.event event)
  | raise _ => none

/-- The effects of a plan all of whose writes are taken. -/
def Step.effects (steps : List Step) : List Effect := steps.filterMap Step.effect?

theorem Step.effects_cons (step : Step) (steps : List Step) :
    Step.effects (step :: steps) = step.effect?.toList ++ Step.effects steps := by
  rw [effects, List.filterMap_cons]
  cases step.effect? <;> rfl

theorem Step.effects_append (steps others : List Step) :
    Step.effects (steps ++ others) = Step.effects steps ++ Step.effects others :=
  List.filterMap_append

def Step.status? : Step → Option ExitStatus
  | raise status => some status
  | _ => none

/-- The statuses that a plan raises, in order. -/
def Step.raised (steps : List Step) : List ExitStatus := steps.filterMap Step.status?

theorem Step.raised_cons (step : Step) (steps : List Step) :
    Step.raised (step :: steps) = step.status?.toList ++ Step.raised steps := by
  rw [raised, List.filterMap_cons]
  cases step.status? <;> rfl

theorem Step.raised_append (steps others : List Step) :
    Step.raised (steps ++ others) = Step.raised steps ++ Step.raised others :=
  List.filterMap_append

def Step.isWrite : Step → Bool
  | write _ => true
  | _ => false

/-- Steps none of which writes to the output. -/
def Step.AreQuiet (steps : List Step) : Prop := ∀ step ∈ steps, step.isWrite = false

theorem Step.AreQuiet.append {steps others : List Step} (h : AreQuiet steps)
    (hothers : AreQuiet others) : AreQuiet (steps ++ others) := by
  intro step hstep
  rcases List.mem_append.1 hstep with hstep | hstep
  · exact h step hstep
  · exact hothers step hstep

theorem Step.effects_map_log (events : List Log.Event) :
    effects (events.map log) = events.map Effect.event := by
  rw [effects, List.filterMap_map, ← List.filterMap_eq_map]
  rfl

theorem Step.raised_map_log (events : List Log.Event) : raised (events.map log) = [] := by
  rw [raised, List.filterMap_map, List.filterMap_eq_nil_iff]
  intro event _
  rfl

theorem Step.areQuiet_map_log (events : List Log.Event) : AreQuiet (events.map log) := by
  intro step hstep
  obtain ⟨event, -, rfl⟩ := List.mem_map.1 hstep
  rfl

theorem Sink.write_of_unlimited {sink : Sink} (hsink : sink.room = none) (text : String) :
    sink.write text = .ok sink := by
  unfold write
  rw [hsink]

namespace Execution

variable {sink : Sink}

/-- With room for every write a plan is executed to its end. -/
theorem resume_of_unlimited (hsink : sink.room = none) (done : List Effect) (status : ExitStatus)
    (steps : List Step) :
    (resume done status sink steps).effects = done.reverse ++ Step.effects steps ∧
      (resume done status sink steps).failure = none := by
  induction steps generalizing done status with
  | nil => simp [resume, Step.effects]
  | cons step steps ih =>
    simp only [Step.effects, List.filterMap_cons] at ih ⊢
    cases step with
    | write text =>
      simpa [resume, Sink.write_of_unlimited hsink, Step.effect?]
        using ih (.output text :: done) status
    | report text => simpa [resume, Step.effect?] using ih (.diagnostic text :: done) status
    | log event => simpa [resume, Step.effect?] using ih (.event event :: done) status
    | raise other => simpa [resume, Step.effect?] using ih done (status.worst other)

/-- The status at the end is the worst of those raised on the way. -/
theorem status_resume_of_unlimited (hsink : sink.room = none) (done : List Effect)
    (status : ExitStatus) (steps : List Step) :
    (resume done status sink steps).status = (Step.raised steps).foldl ExitStatus.worst status := by
  induction steps generalizing done status with
  | nil => rfl
  | cons step steps ih =>
    cases step with
    | write text =>
      rw [resume, Sink.write_of_unlimited hsink]
      exact ih (.output text :: done) status
    | report text => exact ih (.diagnostic text :: done) status
    | log event => exact ih (.event event :: done) status
    | raise other => exact ih done (status.worst other)

/-- Quiet steps are carried out whatever the output is. -/
theorem resume_append_of_quiet {steps : List Step} (hquiet : Step.AreQuiet steps)
    (done : List Effect) (status : ExitStatus) (sink : Sink) (more : List Step) :
    resume done status sink (steps ++ more) =
      resume ((Step.effects steps).reverse ++ done)
        ((Step.raised steps).foldl ExitStatus.worst status) sink more := by
  induction steps generalizing done status with
  | nil => rfl
  | cons step steps ih =>
    obtain ⟨hstep, hsteps⟩ := List.forall_mem_cons.1 hquiet
    cases step with
    | write text => cases hstep
    | report text | log event | raise other =>
      simp [resume, Step.effects_cons, Step.raised_cons, Step.effect?, Step.status?, ih hsteps]

/-- A status that no step raises is not reached, wherever the execution ends. -/
theorem status_resume_ne (done : List Effect) (sink : Sink) {steps : List Step}
    {avoided status : ExitStatus} (hsteps : avoided ∉ Step.raised steps)
    (hstatus : status ≠ avoided) : (resume done status sink steps).status ≠ avoided := by
  induction steps generalizing done status sink with
  | nil => exact hstatus
  | cons step steps ih =>
    cases step with
    | write text =>
      rw [resume]
      split
      · exact ih _ _ hsteps hstatus
      · exact hstatus
    | report text => exact ih _ sink hsteps hstatus
    | log event => exact ih _ sink hsteps hstatus
    | raise other =>
      rw [Step.raised_cons, List.mem_append, not_or] at hsteps
      refine ih _ sink hsteps.2 ?_
      unfold ExitStatus.worst
      split
      · exact fun heq ↦ hsteps.1 (Option.mem_toList.2 (congrArg some heq))
      · exact hstatus

end Execution

theorem SourceRun.execute_of_unlimited {sink : Sink} (hsink : sink.room = none) (run : SourceRun) :
    run.execute sink = (Step.effects run.steps, run.outcome) := by
  obtain ⟨heffects, hfailure⟩ := Execution.resume_of_unlimited hsink [] .success run.steps
  unfold execute Execution.ofSteps
  dsimp only
  rw [hfailure, heffects, List.reverse_nil, List.nil_append]

/-! ## Streams -/

theorem stdoutText_append (effects others : List Effect) :
    stdoutText (effects ++ others) = stdoutText effects ++ stdoutText others := by
  apply String.toList_injective
  simp [stdoutText, String.toList_join]

/-- The messages on standard error that are no log events. -/
def diagnostics (effects : List Effect) : List String := effects.filterMap Effect.diagnosticText?

theorem diagnostics_append (effects others : List Effect) :
    diagnostics (effects ++ others) = diagnostics effects ++ diagnostics others :=
  List.filterMap_append

theorem stdoutText_eq_empty {effects : List Effect}
    (h : ∀ effect ∈ effects, effect.outputText? = none) : stdoutText effects = "" := by
  rw [stdoutText, List.filterMap_eq_nil_iff.2 h]
  rfl

theorem stdoutText_of_events {effects : List Effect}
    (h : ∀ effect ∈ effects, effect.isEvent = true) : stdoutText effects = "" := by
  refine stdoutText_eq_empty fun effect heffect ↦ ?_
  cases effect with
  | event event => rfl
  | _ => exact absurd (h _ heffect) (by simp [Effect.isEvent])

theorem diagnostics_of_events {effects : List Effect}
    (h : ∀ effect ∈ effects, effect.isEvent = true) : diagnostics effects = [] := by
  rw [diagnostics, List.filterMap_eq_nil_iff]
  intro effect heffect
  cases effect with
  | event event => rfl
  | _ => exact absurd (h _ heffect) (by simp [Effect.isEvent])

/-- Without its log events, standard error holds the diagnostics, whatever the settings are. -/
theorem stderrText_of_no_events (settings : Log.Settings) (time : String) (effects : List Effect) :
    stderrText settings time (effects.filter fun effect ↦ !effect.isEvent) =
      String.join ((diagnostics effects).map fun line ↦ line ++ "\n") := by
  have hlines : (effects.filter fun effect ↦ !effect.isEvent).filterMap
      (Effect.stderrLine? settings time) = diagnostics effects := by
    rw [List.filterMap_filter]
    apply List.filterMap_congr
    intro effect _
    cases effect <;> rfl
  rw [stderrText, hlines]

end BusReplay
