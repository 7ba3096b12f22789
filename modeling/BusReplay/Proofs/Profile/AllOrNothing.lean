import BusReplay.Proofs.Profile.Words

/-!
# Commands that are complete or not there

The header of a command is filled in one pass: every placeholder stands in it once, and no text
that comes from a record is searched for another. Behind the header stand the words of all
arguments, or there is no command and the first argument without a word is reported.
-/

namespace BusReplay

def Template.occurrences (name template : String) : Nat :=
  template.toList.tails.countP fun rest ↦ (placeholder name).isPrefixOf rest

namespace Target

variable {record : CallRecord} {scope : BusScope} {line busName : String}

/-- Every placeholder of a header is filled exactly once. -/
theorem occurrences_header (target : Target) (record : CallRecord) (scope : BusScope) :
    ∀ entry ∈ headerValues record scope,
      Template.occurrences entry.1 target.profile.header = 1 := by
  simp only [headerValues, List.forall_mem_cons]
  cases target with
  | dbusSend => exact ⟨by decide, by decide, by decide, by decide, by decide, by simp⟩
  | gdbus => exact ⟨by decide, by decide, by decide, by decide, by decide, by simp⟩

/-- No text that a replacement has put into a header is replaced by a later one. -/
theorem fillHeader_eq_fillTogether (target : Target) (h : record.IsNamed) (scope : BusScope) :
    target.profile.fillHeader record scope =
      Template.fillTogether (headerValues record scope) target.profile.header := by
  rw [Profile.fillHeader, header_eq_written]
  exact Template.fill_eq_fillTogether (isClear_headerValues h scope) (isPlain_headerParts target)

/-- A record becomes a command exactly when each of its arguments can be rendered. The command is
the header with all placeholders replaced together and the words of the arguments, each part with a
space behind it; otherwise the first argument that cannot be rendered gives the error. -/
theorem render_all_or_nothing {target : Target} (hname : validateBusName busName = .ok ())
    (hparse : CallRecord.parse line busName = .ok record) :
    (∀ entry ∈ headerValues record scope,
      Template.occurrences entry.1 target.profile.header = 1) ∧
    ((∃ command, target.profile.render record scope = .ok command) ↔
      ∀ argument ∈ record.arguments, ∃ word, target.profile.renderArgument argument = .ok word) ∧
    (∀ command, target.profile.render record scope = .ok command ↔ ∃ words,
      List.Forall₂ (fun argument word ↦ target.profile.renderArgument argument = .ok word)
        record.arguments words ∧
      command = Template.fillTogether (headerValues record scope) target.profile.header ++ " " ++
        String.join (words.map fun word ↦ word ++ " ")) ∧
    ∀ e, target.profile.render record scope = .error e ↔ ∃ before argument after,
      record.arguments = before ++ argument :: after ∧
      (∀ earlier ∈ before, ∃ word, target.profile.renderArgument earlier = .ok word) ∧
      target.profile.renderArgument argument = .error e ∧
      (e = .unsupportedType argument.tag target.tool ∨
        e = .unsafeLiteral argument.tag argument.value ∨ e = .invalidHex argument.tag) := by
  have hnamed : record.IsNamed := CallRecord.isNamed_of_parse hname hparse
  have htool : target.profile.tool = target.tool := by cases target <;> rfl
  refine ⟨target.occurrences_header record scope, Profile.exists_render_eq_ok_iff,
    fun command ↦ ?_, fun e ↦ ?_⟩
  · rw [Profile.render_eq_ok_iff, ← fillHeader_eq_fillTogether target hnamed]
    rfl
  · rw [Profile.render_eq_error_iff, ← htool]
    constructor
    · intro ⟨before, argument, after, hcut, hbefore, he⟩
      exact ⟨before, argument, after, hcut, hbefore, he,
        (Profile.renderArgument_eq_error he).imp_left And.right⟩
    · intro ⟨before, argument, after, hcut, hbefore, he, _⟩
      exact ⟨before, argument, after, hcut, hbefore, he⟩

/-- An encoded value that spells a placeholder; and three arguments, the second of which is no
literal, and the third of a type that has no rule. -/
theorem render_all_or_nothing_placeholder :
    validateBusName "q.Q" = .ok () ∧
      CallRecord.parse "a.b;/p;M;s;7b6d6574686f647d;y;3;Crash" "q.Q" =
        .ok ⟨"q.Q", "a.b", "/p", "M", [⟨'s', "7b6d6574686f647d"⟩, ⟨'y', "3"⟩], "Crash"⟩ ∧
      gdbus.profile.render
          ⟨"q.Q", "a.b", "/p", "M", [⟨'s', "7b6d6574686f647d"⟩, ⟨'y', "3"⟩], "Crash"⟩ .system =
        .ok ("gdbus call --system --dest q.Q --object-path /p --method a.b.M " ++
          "\"`echo 7b6d6574686f647d | xxd -r -p`\" 3 ") ∧
      CallRecord.parse "a.b;/p;M;s;00;i;\x7bmethod\x7d;h;1;Crash" "q.Q" =
        .ok ⟨"q.Q", "a.b", "/p", "M", [⟨'s', "00"⟩, ⟨'i', "\x7bmethod\x7d"⟩, ⟨'h', "1"⟩], "Crash"⟩ ∧
      gdbus.profile.render
          ⟨"q.Q", "a.b", "/p", "M", [⟨'s', "00"⟩, ⟨'i', "\x7bmethod\x7d"⟩, ⟨'h', "1"⟩], "Crash"⟩
          .system =
        .error (.unsafeLiteral 'i' "\x7bmethod\x7d") := by
  have hname : validateBusName "q.Q" = .ok () := by decide +kernel
  have hparse : CallRecord.parse "a.b;/p;M;s;7b6d6574686f647d;y;3;Crash" "q.Q" =
      .ok ⟨"q.Q", "a.b", "/p", "M", [⟨'s', "7b6d6574686f647d"⟩, ⟨'y', "3"⟩], "Crash"⟩ := by
    decide +kernel
  have hfaulty : CallRecord.parse "a.b;/p;M;s;00;i;\x7bmethod\x7d;h;1;Crash" "q.Q" =
      .ok ⟨"q.Q", "a.b", "/p", "M", [⟨'s', "00"⟩, ⟨'i', "\x7bmethod\x7d"⟩, ⟨'h', "1"⟩],
        "Crash"⟩ := by
    decide +kernel
  obtain ⟨-, -, hcommand, -⟩ := @render_all_or_nothing _ .system _ _ .gdbus hname hparse
  obtain ⟨-, -, -, herror⟩ := @render_all_or_nothing _ .system _ _ .gdbus hname hfaulty
  have hword : gdbus.profile.renderArgument ⟨'s', "00"⟩ = .ok "\"`echo 00 | xxd -r -p`\"" := by
    decide +kernel
  refine ⟨hname, hparse, (hcommand _).2 ⟨["\"`echo 7b6d6574686f647d | xxd -r -p`\"", "3"], ?_, ?_⟩,
    hfaulty, (herror _).2 ⟨[⟨'s', "00"⟩], ⟨'i', "\x7bmethod\x7d"⟩, [⟨'h', "1"⟩], rfl, ?_, ?_, ?_⟩⟩
  · exact .cons (by decide +kernel) (.cons (by decide +kernel) .nil)
  · decide +kernel
  · exact List.forall_mem_singleton.2 ⟨_, hword⟩
  · decide +kernel
  · exact .inr (.inl rfl)

end Target

end BusReplay
