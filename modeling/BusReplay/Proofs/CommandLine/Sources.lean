import BusReplay.CommandLine.Parser
import BusReplay.Proofs.Input.Source

/-!
# The sources of a command line

The files of a command line are its sources, in their order. A dash is standard input, and so is a
dash with slashes behind it, since both are the same path; with anything in front of it, it is the
name of a file.
-/

namespace BusReplay

/-- Whether a text is read as standard input: a dash, with slashes and single dots behind them. -/
def Source.SpellsStdin (text : String) : Prop :=
  ∃ trail, Path.IsTrail trail ∧ text.toList = '-' :: trail

theorem Source.ofPath_eq_stdin_iff_spells {text : String} :
    ofPath text = stdin ↔ SpellsStdin text := by
  rw [ofPath_eq_stdin_iff, Path.withoutTrail_eq_iff (by decide)]
  rfl

namespace CommandLine.Arguments

open Source (SpellsStdin)

/-- Standard input is without a name when it is a source and no name is given. -/
theorem stdinWithoutName_iff {args : Arguments} :
    args.stdinWithoutName = true ↔ args.name = none ∧ .stdin ∈ args.sources := by
  have hstdin : args.sources.any Source.isStdin = true ↔ .stdin ∈ args.sources := by
    rw [List.any_eq_true]
    constructor
    · rintro ⟨source, hsource, hkind⟩
      cases source with
      | stdin => exact hsource
      | file path => cases hkind
    · exact fun hsource ↦ ⟨.stdin, hsource, rfl⟩
  rw [stdinWithoutName, Bool.and_eq_true, Option.isNone_iff_eq_none, hstdin]

/-- The spelling of a file decides whether it is standard input; every other file is opened under
the path that was given. -/
theorem sources_spelled (args : Arguments) :
    List.Forall₂ (fun text source ↦ (source = .stdin ↔ SpellsStdin text) ∧
      (¬ SpellsStdin text → source = .file text)) args.files args.sources ∧
    (args.stdinWithoutName = true ↔ args.name = none ∧ ∃ text ∈ args.files, SpellsStdin text) ∧
    SpellsStdin "-" ∧ ∀ directory : String, ¬ SpellsStdin (directory ++ "/-") := by
  refine ⟨?_, ?_, ⟨[], ⟨[], by simp⟩, by decide⟩, fun directory ↦ ?_⟩
  · rw [sources, List.forall₂_map_right_iff, List.forall₂_same]
    intro text _
    refine ⟨Source.ofPath_eq_stdin_iff_spells, fun h ↦ Source.ofPath_eq_file ?_⟩
    rwa [Ne, ← Source.ofPath_eq_stdin_iff, Source.ofPath_eq_stdin_iff_spells]
  · simp only [stdinWithoutName_iff, sources, List.mem_map, Source.ofPath_eq_stdin_iff_spells]
  · have hname : Path.EndsIn "-".toList ['-'] :=
      Path.fileName?_eq_some_iff_endsIn.1 (by decide +kernel)
    have hfile := Source.ofPath_of_directory directory hname
    have htext : directory ++ "/" ++ "-" = directory ++ "/-" := String.append_assoc
    rw [htext] at hfile
    rw [← Source.ofPath_eq_stdin_iff_spells, hfile]
    simp

/-- A dash with a slash behind it is standard input. -/
theorem not_forall_stdin_eq_dash :
    ¬ ∀ (commandLine : List String) (args : Arguments), parse commandLine = .ok args →
      ∀ text ∈ args.files, Source.ofPath text = .stdin ↔ text = "-" := by
  intro h
  have hdash := h ["dbus-reprogen", "--session", "--", "-/"]
    ⟨false, true, none, .dbusSend, [.crash], ["-/"], none, false, none, false⟩
    (by decide +kernel) "-/" List.mem_cons_self
  exact absurd (hdash.1 (by decide +kernel)) (by decide)

end CommandLine.Arguments

end BusReplay
