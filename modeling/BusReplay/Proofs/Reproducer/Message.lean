import BusReplay.Proofs.Profile.Rendering
import BusReplay.Proofs.Record.Parser
import BusReplay.Proofs.Reproducer.Outcome

/-!
# Messages on one line

An error repeats tags and values of its line as they are, without any escapes. They are parts of
the trimmed line, so its message holds no newline as long as the trimmed line holds none.
-/

namespace BusReplay

def IsOneLine (text : String) : Prop := '\n' ∉ text.toList

namespace IsOneLine

instance (text : String) : Decidable (IsOneLine text) :=
  inferInstanceAs (Decidable ('\n' ∉ text.toList))

theorem append {s t : String} (hs : IsOneLine s) (ht : IsOneLine t) : IsOneLine (s ++ t) := by
  unfold IsOneLine
  rw [String.toList_append, List.mem_append, not_or]
  exact ⟨hs, ht⟩

theorem toString_nat (n : Nat) : IsOneLine (toString n) := by
  intro hmem
  have hdigits : '\n' ∈ Nat.toDigits 10 n := by
    rw [← Nat.toList_repr]
    exact hmem
  exact absurd (Nat.isDigit_of_mem_toDigits (by decide) (by decide) hdigits) (by decide)

theorem toString_char {c : Char} (h : c ≠ '\n') : IsOneLine c.toString := by
  unfold IsOneLine
  simpa using h.symm

end IsOneLine

/-! ## Errors of a record -/

theorem NameKind.isOneLine_label (kind : NameKind) : IsOneLine kind.label := by
  cases kind <;> decide

/-- The error of a line is one line if the text that it quotes is. -/
theorem ParseError.isOneLine_message {e : ParseError} (h : '\n' ∉ e.quoted) :
    IsOneLine e.message := by
  cases e with
  | tooFewFields found =>
    exact .append (by decide) (.toString_nat found)
  | unpairedArgument found =>
    exact .append (.append (by decide) (.toString_nat found)) (by decide)
  | invalidTypeTag field =>
    exact .append (.append (by decide) h) (by decide)
  | invalidName kind value =>
    have hkind : IsOneLine ("invalid " ++ kind.label) := .append (by decide) kind.isOneLine_label
    exact .append (.append (.append hkind (by decide)) h) (by decide)

/-! ## Errors of a command -/

theorem Target.isOneLine_tool (target : Target) : IsOneLine target.tool := by
  cases target <;> decide

/-- The error of an argument is one line if its tag and its value are. -/
theorem Profile.isOneLine_message {profile : Profile} {argument : Argument} {e : FormatError}
    (h : profile.renderArgument argument = .error e)
    (hargument : '\n' ∉ argument.tag :: argument.value.toList) : IsOneLine e.message := by
  rw [List.mem_cons, not_or] at hargument
  have htag : IsOneLine argument.tag.toString := .toString_char (Ne.symm hargument.1)
  have hvalue : IsOneLine argument.value := hargument.2
  rcases renderArgument_eq_error h with ⟨-, rfl⟩ | rfl | rfl
  · exact .append (.append (.append (by decide) htag) (by decide)) profile.target.isOneLine_tool
  · have hquoted : IsOneLine ("value '" ++ argument.value ++ "' of type ") :=
      .append (.append (by decide) hvalue) (by decide)
    exact .append (.append hquoted htag) (by decide)
  · exact .append (.append (by decide) htag) (by decide)

/-! ## Errors of a line -/

/-- The error of a line with no newline within has no newline either. -/
theorem Reproducer.isOneLine_message {r : Reproducer} {line busName : String} {e : RunError}
    (h : r.reproduce line busName = .error e) (hline : '\n' ∉ Text.trim line.toList) :
    IsOneLine e.message := by
  rcases rerun_eq_error_iff.1 (rerun_of_reproduce_eq_error h) with
    ⟨fault, hparse, rfl⟩ | ⟨record, hparse, fault, hrender, rfl⟩
  · have hquoted : '\n' ∉ fault.quoted :=
      fun hmem ↦ hline (CallRecord.quoted_subset_trim hparse hmem)
    exact .append (by decide) (ParseError.isOneLine_message hquoted)
  · obtain ⟨before, argument, after, hcut, -, hfault⟩ := Profile.render_eq_error_iff.1 hrender
    have hargument : argument ∈ record.arguments := by simp [hcut]
    have hquoted : '\n' ∉ argument.tag :: argument.value.toList :=
      fun hmem ↦ hline (CallRecord.argument_subset_trim hparse hargument hmem)
    exact Profile.isOneLine_message hfault hquoted

end BusReplay
