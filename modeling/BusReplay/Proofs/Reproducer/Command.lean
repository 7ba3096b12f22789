import BusReplay.Proofs.Profile.Words
import BusReplay.Proofs.Reproducer.Outcome

/-!
# Commands without injected syntax

Whatever a log line holds, the command that it becomes consists of the words of the header and of
one word for each argument. All of them are free of shell syntax, apart from the quoted
substitutions that decode a value.
-/

namespace BusReplay.Reproducer

open Shell

/-- A command is one line. It is made up of the words of the header and one word for each argument,
and nothing in these words does more than stand for itself or have a value decoded. -/
theorem isInert_reproduced {target : Target} {scope : BusScope} {filter : ResultFilter}
    {line busName command : String} (hname : validateBusName busName = .ok ())
    (h : reproduce ⟨target.profile, scope, filter⟩ line busName = .ok (.command command)) :
    ('\n' ∉ command.toList ∧ '\r' ∉ command.toList) ∧
      ∃ record words, CallRecord.parse line busName = .ok record ∧
        List.Forall₂ target.profile.Writes record.arguments words ∧
        (∀ word ∈ target.headerCommand record scope ++ words, Word.IsInert word) ∧
        command.toList = commandChars (target.headerCommand record scope ++ words) := by
  obtain ⟨record, hparse, hrender⟩ := rerun_eq_ok_iff.1 (rerun_of_reproduce_eq_command h)
  have hnamed : record.IsNamed := CallRecord.isNamed_of_parse hname hparse
  obtain ⟨words, hwords, hinert, hcommand⟩ := Target.exists_command_of_render hnamed hrender
  have habsent {c : Char} (hc : ¬(isBare c = true ∨ c ∈ ['"', '\x60', '|', ' '])) :
      c ∉ command.toList := by
    intro hmem
    rw [hcommand] at hmem
    exact hc (mem_commandChars hinert hmem)
  exact ⟨⟨habsent (by decide), habsent (by decide)⟩, record, words, hparse, hwords, hinert,
    hcommand⟩

/-- A value that decodes to a command substitution stays a text in base sixteen. -/
theorem isInert_reproduced_substitution :
    ∃ command, reproduce ⟨Target.dbusSend.profile, .session, .onlyCrash⟩
        " a.b;/p;M;s;24286c7329;i;-3;Crash\n" "a.b" = .ok (.command command) ∧
      ('\n' ∉ command.toList ∧ '\r' ∉ command.toList) ∧
      ∃ record words,
        CallRecord.parse " a.b;/p;M;s;24286c7329;i;-3;Crash\n" "a.b" = .ok record ∧
        List.Forall₂ Target.dbusSend.profile.Writes record.arguments words ∧
        (∀ word ∈ Target.dbusSend.headerCommand record .session ++ words, Word.IsInert word) ∧
        command.toList = commandChars (Target.dbusSend.headerCommand record .session ++ words) := by
  have hname : validateBusName "a.b" = .ok () := by decide +kernel
  have hcommand : reproduce ⟨Target.dbusSend.profile, .session, .onlyCrash⟩
      " a.b;/p;M;s;24286c7329;i;-3;Crash\n" "a.b" = .ok (.command
        ("dbus-send --session --dest=a.b --print-reply /p a.b.M " ++
          "string:\"`echo 24286c7329 | xxd -r -p`\" int32:-3 ")) := by
    decide +kernel
  exact ⟨_, hcommand, isInert_reproduced hname hcommand⟩

end BusReplay.Reproducer
