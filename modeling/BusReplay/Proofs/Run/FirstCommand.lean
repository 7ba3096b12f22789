import BusReplay.Proofs.Run.Files
import BusReplay.Proofs.Run.Program

/-!
# The first command of a run

Up to the first line that becomes a command, a run writes nothing. What it does until then is told
by the results of the sources up to that line, as if the source of the line had ended in front of
it. Later sources have no part in it.
-/

namespace BusReplay

/-! ## Commands are written -/

/-- No command is empty. -/
theorem Profile.render_ne_empty {profile : Profile} {record : CallRecord} {scope : BusScope}
    {command : String} (h : profile.render record scope = .ok command) : command ≠ "" := by
  obtain ⟨words, -, rfl⟩ := render_eq_ok_iff.1 h
  intro hempty
  have hspace : ' ' ∈ (profile.commandText record scope words).toList := by
    simp [commandText]
  rw [hempty] at hspace
  cases hspace

/-- A command is no empty text, so an output that refuses writes refuses it. -/
theorem Reproducer.command_ne_empty {r : Reproducer} {line busName command : String}
    (h : r.reproduce line busName = .ok (.command command)) : command ≠ "" := by
  obtain ⟨record, -, hrender⟩ := rerun_eq_ok_iff.1 (rerun_of_reproduce_eq_command h)
  exact Profile.render_ne_empty hrender

/-! ## Up to the first command -/

namespace SourceResult

/-- Whether no line of a source has become a command. -/
def IsSilent (result : SourceResult) : Prop := ∀ outcome ∈ result.outcomes, command? outcome = none

/-- Results of sources, and what has come of the sources by the first line that becomes a command.
The source of that line ends in front of it and has not failed by then. -/
inductive UpToCommand : List SourceResult → List SourceResult → Prop
  | intro {before : List SourceResult} {quiet : List (Except RunError Outcome)} (source : Source)
    (command : String) (later : List (Except RunError Outcome)) (failure : Option RunError)
    (after : List SourceResult) (hbefore : ∀ result ∈ before, result.IsSilent)
    (hquiet : ∀ outcome ∈ quiet, command? outcome = none) :
    UpToCommand (before ++ ⟨source, quiet ++ .ok (.command command) :: later, failure⟩ :: after)
      (before ++ [⟨source, quiet, none⟩])

theorem exists_first_command {outcomes : List (Except RunError Outcome)}
    (h : ¬ ∀ outcome ∈ outcomes, command? outcome = none) :
    ∃ quiet command later, outcomes = quiet ++ .ok (.command command) :: later ∧
      ∀ outcome ∈ quiet, command? outcome = none := by
  have hany : outcomes.find? (fun outcome ↦ (command? outcome).isSome) ≠ none := by
    simpa [List.find?_eq_none] using h
  obtain ⟨outcome, hfind⟩ := Option.ne_none_iff_exists'.1 hany
  obtain ⟨hcommand, quiet, later, rfl, hquiet⟩ := List.find?_eq_some_iff_append.1 hfind
  obtain ⟨command, hcommand⟩ := Option.isSome_iff_exists.1 hcommand
  obtain rfl := command?_eq_some_iff.1 hcommand
  exact ⟨quiet, command, later, rfl, by simpa using hquiet⟩

/-- Either no line becomes a command, or there is a first one that does. -/
theorem isSilent_or_upToCommand (results : List SourceResult) :
    (∀ result ∈ results, result.IsSilent) ∨ ∃ reached, UpToCommand results reached := by
  induction results with
  | nil => simp
  | cons result results ih =>
    by_cases hsilent : result.IsSilent
    · rcases ih with hall | ⟨_, hreached⟩
      · exact .inl (List.forall_mem_cons.2 ⟨hsilent, hall⟩)
      · obtain ⟨source, command, later, failure, after, hbefore, hquiet⟩ := hreached
        exact .inr ⟨_, .intro source command later failure after
          (List.forall_mem_cons.2 ⟨hsilent, hbefore⟩) hquiet⟩
    · obtain ⟨source, outcomes, failure⟩ := result
      obtain ⟨quiet, command, later, rfl, hquiet⟩ := exists_first_command hsilent
      exact .inr ⟨_, .intro source command later failure results (List.forall_mem_nil _) hquiet⟩

end SourceResult

namespace LineContext

variable (ctx : LineContext)

theorem allSteps_append (lines others : List String) (first : Nat) :
    ctx.allSteps (lines ++ others) first =
      ctx.allSteps lines first ++ ctx.allSteps others (first + lines.length) := by
  unfold allSteps
  rw [List.zipIdx_append, List.flatMap_append]

theorem areQuiet_steps {number : Nat} {line : String} (h : command? (ctx.outcome line) = none) :
    Step.AreQuiet (ctx.steps number line) := by
  unfold steps
  rcases hline : ctx.outcome line with e | (text | _ | _)
  · simp [Step.AreQuiet, Step.isWrite]
  · rw [hline] at h
    cases h
  · simp [Step.AreQuiet, Step.isWrite]
  · simp [Step.AreQuiet]

theorem areQuiet_allSteps {lines : List String}
    (h : ∀ outcome ∈ lines.map ctx.outcome, command? outcome = none) (first : Nat) :
    Step.AreQuiet (ctx.allSteps lines first) := by
  induction lines generalizing first with
  | nil => simp [allSteps, Step.AreQuiet]
  | cons line lines ih =>
    rw [List.map_cons, List.forall_mem_cons] at h
    rw [allSteps_cons]
    exact (ctx.areQuiet_steps h.1).append (ih h.2 (first + 1))

end LineContext

namespace SourceContext

variable {program : String}

theorem Enacts.areQuiet {result : SourceResult} {steps : List Step}
    (h : Enacts program result steps) (hsilent : result.IsSilent) : Step.AreQuiet steps := by
  obtain ⟨lines, texts, events, -, -, -, hquiet⟩ := h
  exact (Step.areQuiet_map_log events).append ((lines.areQuiet_allSteps hsilent 1).append hquiet)

theorem areQuiet_flatten {results : List SourceResult} {parts : List (List Step)}
    (h : List.Forall₂ (Enacts program) results parts)
    (hsilent : ∀ result ∈ results, result.IsSilent) : Step.AreQuiet parts.flatten := by
  induction h with
  | nil => exact List.forall_mem_nil _
  | cons hresult _ ih =>
    rw [List.forall_mem_cons] at hsilent
    exact (hresult.areQuiet hsilent.1).append (ih hsilent.2)

/-- What is done about a source before its first command is all that is done about a source that
ends there. -/
theorem Enacts.exists_front {source : Source} {quiet later : List (Except RunError Outcome)}
    {command : String} {failure : Option RunError} {steps : List Step}
    (h : Enacts program ⟨source, quiet ++ .ok (.command command) :: later, failure⟩ steps)
    (hsilent : ∀ outcome ∈ quiet, command? outcome = none) :
    ∃ front rest, steps = front ++ .write command :: rest ∧ command ≠ "" ∧
      Enacts program ⟨source, quiet, none⟩ front := by
  generalize houtcomes : quiet ++ .ok (.command command) :: later = outcomes at h
  obtain @⟨lines, texts, events, _, _, ending, hprogram, hsource, -, -⟩ := h
  obtain ⟨before, others, rfl, rfl, hothers⟩ := List.map_eq_append_iff.1 houtcomes.symm
  obtain ⟨line, after, rfl, hline, -⟩ := List.map_eq_cons_iff.1 hothers
  have hsteps : lines.steps (1 + before.length) line = [.write command, .write "\n"] := by
    rw [LineContext.steps, hline]
  have hfront : Enacts program ⟨source, before.map lines.outcome, none⟩
      (events.map .log ++ (lines.allSteps before 1 ++ [])) :=
    .intro lines before events hprogram hsource ⟨rfl, rfl, rfl⟩ (by simp [Step.AreQuiet])
  refine ⟨_, .write "\n" :: (lines.allSteps after (1 + before.length + 1) ++ ending), ?_,
    Reproducer.command_ne_empty hline, hfront⟩
  rw [LineContext.allSteps_append, LineContext.allSteps_cons, hsteps]
  simp

/-- What is done about sources before their first command. -/
theorem exists_front_of_forall₂ {before : List SourceResult} {source : Source}
    {quiet later : List (Except RunError Outcome)} {command : String} {failure : Option RunError}
    {parts : List (List Step)}
    (h : List.Forall₂ (Enacts program)
      (before ++ [⟨source, quiet ++ .ok (.command command) :: later, failure⟩]) parts)
    (hbefore : ∀ result ∈ before, result.IsSilent)
    (hsilent : ∀ outcome ∈ quiet, command? outcome = none) :
    ∃ front rest, parts.flatten = front ++ .write command :: rest ∧ command ≠ "" ∧
      Step.AreQuiet front ∧ Tells program (before ++ [⟨source, quiet, none⟩]) front := by
  induction before generalizing parts with
  | nil =>
    obtain ⟨part, others, henacts, -, rfl⟩ := List.forall₂_cons_left_iff.1 h
    obtain ⟨front, rest, rfl, hcommand, hfront⟩ := henacts.exists_front hsilent
    exact ⟨front, rest ++ others.flatten, by simp, hcommand, hfront.areQuiet hsilent, hfront.tells⟩
  | cons result before ih =>
    obtain ⟨part, others, henacts, hothers, rfl⟩ := List.forall₂_cons_left_iff.1 h
    rw [List.forall_mem_cons] at hbefore
    obtain ⟨front, rest, hflatten, hcommand, hquiet, htells⟩ := ih hothers hbefore.2
    exact ⟨part ++ front, rest, by simp [hflatten], hcommand,
      (henacts.areQuiet hbefore.1).append hquiet, henacts.tells.append htells⟩

/-! ## No further than the first command -/

variable {ctx : SourceContext} {stdin : Stream}

theorem YieldsAll.of_append {sources others : List Source} {results more : List SourceResult}
    (h : ctx.YieldsAll stdin (sources ++ others) (results ++ more))
    (hlength : results.length = sources.length) : ctx.YieldsAll stdin sources results where
  order := by
    have horder := congrArg (List.take sources.length) h.order
    rwa [List.map_append, List.take_left, List.take_left' (by simpa using hlength)] at horder
  each i result hresult := by
    have hbound : i < results.length := (List.getElem?_eq_some_iff.1 hresult).1
    have heach := h.each i result (by rwa [List.getElem?_append_left hbound])
    rwa [List.take_append_of_le_length (hlength ▸ hbound.le)] at heach

/-- The steps for earlier sources come first. -/
theorem exists_steps_plan_append (ctx : SourceContext) (stdin : Stream)
    (sources others : List Source) :
    ∃ more, (ctx.plan stdin (sources ++ others)).steps =
      (ctx.plan stdin sources).steps ++ more := by
  induction sources generalizing stdin with
  | nil => exact ⟨_, rfl⟩
  | cons source sources ih =>
    obtain ⟨more, hmore⟩ := ih (ctx.stdinAfter stdin source)
    exact ⟨more, by rw [List.cons_append, steps_plan_cons, steps_plan_cons, hmore,
      List.append_assoc]⟩

/-- What a plan holds up to its first command, and that it takes no later source to know it. -/
theorem exists_front_of_upToCommand {sources : List Source} {results reached : List SourceResult}
    (hyields : ctx.YieldsAll stdin sources results)
    (hreached : SourceResult.UpToCommand results reached) :
    ∃ front command, command ≠ "" ∧ Step.AreQuiet front ∧ Tells ctx.program reached front ∧
      ∀ files : FileSystem,
        (∀ result ∈ reached, ∀ path, result.source = .file path →
          files.openFile path = ctx.files.openFile path) →
        ∃ rest, (({ ctx with files := files } : SourceContext).plan stdin sources).steps =
          front ++ .write command :: rest := by
  obtain @⟨before, quiet, source, command, later, failure, after, hbefore, hquiet⟩ := hreached
  let first := before ++ [⟨source, quiet ++ .ok (.command command) :: later, failure⟩]
  have hsplit : sources = first.map SourceResult.source ++ after.map SourceResult.source := by
    simp [first, ← hyields.order]
  subst hsplit
  -- The sources up to that of the command are planned by themselves. The others only add to it.
  have hfirst : ctx.YieldsAll stdin (first.map SourceResult.source) first :=
    YieldsAll.of_append (by simpa [first] using hyields) (by simp)
  obtain ⟨others, parts, hothers, hall, hsteps⟩ :=
    exists_enacts ctx stdin (first.map SourceResult.source)
  obtain rfl : others = first := hfirst.unique hothers
  obtain ⟨front, rest, hflatten, hcommand, hfront, htells⟩ :=
    exists_front_of_forall₂ hall hbefore hquiet
  refine ⟨front, command, hcommand, hfront, htells, fun files hfiles ↦ ?_⟩
  obtain ⟨more, hmore⟩ := exists_steps_plan_append { ctx with files := files } stdin
    (first.map SourceResult.source) (after.map SourceResult.source)
  have hcongr : (({ ctx with files := files } : SourceContext).plan stdin
      (first.map SourceResult.source)).steps =
        (ctx.plan stdin (first.map SourceResult.source)).steps :=
    congrArg Plan.steps <| plan_congr stdin fun path hpath ↦ by
      obtain ⟨result, hresult, hsource⟩ := List.mem_map.1 hpath
      rcases List.mem_append.1 hresult with hresult | hresult
      · exact hfiles result (by simp [hresult]) path hsource
      · exact hfiles ⟨source, quiet, none⟩ (by simp) path
          (by rw [← hsource, List.mem_singleton.1 hresult])
  exact ⟨rest ++ more, by rw [hmore, hcongr, hsteps, hflatten]; simp⟩

end SourceContext

end BusReplay
