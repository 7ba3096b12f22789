import BusReplay.Profile.Tools
import BusReplay.Proofs.Profile.Rendering

/-!
# One record for two tools

The rules of the two tools agree tag by tag, except that `gdbus` writes no types and takes two tags
more. So whatever `dbus-send` can be given, `gdbus` can be given with the types left out, and a
record that fails for `dbus-send` fails for `gdbus` at the same argument and for the same reason,
unless that argument is a signature or a variant.
-/

namespace BusReplay

/-- A word as `dbus-send` wants it: a value with its type in front. -/
structure TypedWord where
  typeName : String
  value : String

def TypedWord.text (word : TypedWord) : String := word.typeName ++ ":" ++ word.value

/-! ## Rules -/

namespace ArgumentRule

/-- The rule for a tool that wants no types. -/
def untyped (rule : ArgumentRule) : ArgumentRule := { rule with typeName := none }

/-- The type is put in front of what is written without it, and it does not change the errors. -/
theorem render_eq_map_untyped (rule : ArgumentRule) (value : String) :
    rule.render value = (rule.untyped.render value).map (rule.label ++ ·) := by
  have hvalue : rule.untyped.renderValue value = rule.renderValue value := rfl
  have hlabel : rule.untyped.label = "" := rfl
  unfold render
  rw [hvalue, hlabel]
  cases rule.renderValue value with
  | error e => rfl
  | ok body =>
    have hbody : rule.label ++ body = rule.label ++ ("" ++ body) := by rw [String.empty_append]
    exact congrArg Except.ok hbody

end ArgumentRule

namespace Profile

variable {tag : Char} {rule : ArgumentRule}

/-- All types of `dbus-send` are types of `gdbus` as well. -/
theorem rule?_gdbus_of_dbusSend (h : dbusSend.rule? tag = some rule) :
    gdbus.rule? tag = some rule.untyped := by
  have hrules : ∀ rule ∈ dbusSend.rules, gdbus.rule? rule.tag = some rule.untyped := by decide
  have htag : rule.tag = tag := by simpa using List.find?_some h
  exact htag ▸ hrules rule (List.mem_of_find?_eq_some h)

/-- Signatures and variants are all that `gdbus` takes besides. -/
theorem rule?_gdbus_eq_none (h : dbusSend.rule? tag = none) (hsignature : tag ≠ 'g')
    (hvariant : tag ≠ 'v') : gdbus.rule? tag = none := by
  have hrules : ∀ rule ∈ gdbus.rules,
      (∃ typed ∈ dbusSend.rules, typed.tag = rule.tag) ∨ rule.tag = 'g' ∨ rule.tag = 'v' := by
    decide
  simp only [rule?, List.find?_eq_none, beq_iff_eq] at h ⊢
  rintro rule hrule rfl
  rcases hrules rule hrule with ⟨typed, htyped, htag⟩ | htag | htag
  · exact h typed htyped htag
  · exact hsignature htag
  · exact hvariant htag

theorem exists_typeName_of_dbusSend (h : dbusSend.rule? tag = some rule) :
    ∃ typeName, rule.typeName = some typeName := by
  have hrules : ∀ rule ∈ dbusSend.rules, rule.typeName.isSome = true := by decide
  exact Option.isSome_iff_exists.1 (hrules rule (List.mem_of_find?_eq_some h))

/-! ## Arguments -/

/-- An argument as both tools are given it: with the type of its rule, and bare. -/
structure WritesBoth (argument : Argument) (word : TypedWord) : Prop where
  type : (dbusSend.rule? argument.tag).bind ArgumentRule.typeName = some word.typeName
  typed : dbusSend.renderArgument argument = .ok word.text
  bare : gdbus.renderArgument argument = .ok word.value

variable {argument : Argument} {e : FormatError}

/-- For a type that both tools know their words differ in the label only. -/
theorem renderArgument_dbusSend_of_rule (h : dbusSend.rule? argument.tag = some rule) :
    dbusSend.renderArgument argument = (gdbus.renderArgument argument).map (rule.label ++ ·) := by
  unfold renderArgument
  rw [h, rule?_gdbus_of_dbusSend h]
  exact rule.render_eq_map_untyped argument.value

theorem exists_writesBoth {text : String} (h : dbusSend.renderArgument argument = .ok text) :
    ∃ word, WritesBoth argument word ∧ text = word.text := by
  cases hrule : dbusSend.rule? argument.tag with
  | none => simp [renderArgument, hrule] at h
  | some rule =>
    obtain ⟨typeName, htype⟩ := exists_typeName_of_dbusSend hrule
    have hlabel : rule.label = typeName ++ ":" := by simp [ArgumentRule.label, htype]
    have hmap := h
    rw [renderArgument_dbusSend_of_rule hrule, map_eq_ok_iff] at hmap
    obtain ⟨value, hvalue, htext⟩ := hmap
    have hword : TypedWord.text ⟨typeName, value⟩ = text := by
      rw [TypedWord.text, ← hlabel, htext]
    exact ⟨⟨typeName, value⟩, ⟨by simp [hrule, htype], hword ▸ h, hvalue⟩, hword.symm⟩

/-- A value that one tool cannot take, the other cannot take either. -/
theorem renderArgument_gdbus_eq_error (h : dbusSend.renderArgument argument = .error e)
    (he : ∀ tag tool, e ≠ .unsupportedType tag tool) :
    gdbus.renderArgument argument = .error e := by
  cases hrule : dbusSend.rule? argument.tag with
  | none =>
    simp only [renderArgument, hrule, Except.error.injEq] at h
    exact absurd h.symm (he _ _)
  | some rule => rwa [renderArgument_dbusSend_of_rule hrule, map_eq_error_iff] at h

/-- Two types are known to `gdbus` only. -/
theorem renderArgument_gdbus_of_unsupported {tool : String}
    (h : dbusSend.renderArgument argument = .error (.unsupportedType tag tool))
    (hsignature : tag ≠ 'g') (hvariant : tag ≠ 'v') :
    gdbus.renderArgument argument = .error (.unsupportedType tag "gdbus") := by
  rcases renderArgument_eq_error h with ⟨hrule, he⟩ | he | he
  · obtain ⟨rfl, -⟩ := FormatError.unsupportedType.inj he
    rw [renderArgument, rule?_gdbus_eq_none hrule hsignature hvariant]
    rfl
  · cases he
  · cases he

/-! ## Records -/

variable {record : CallRecord} {scope : BusScope}

/-- Up to the first argument that `dbus-send` cannot take, `gdbus` takes all of them, so what
becomes of that argument becomes of the record. -/
theorem render_gdbus_eq_error {other : FormatError} (h : dbusSend.render record scope = .error e)
    (hstep : ∀ argument, dbusSend.renderArgument argument = .error e →
      gdbus.renderArgument argument = .error other) :
    gdbus.render record scope = .error other := by
  obtain ⟨before, argument, after, hcut, hbefore, hargument⟩ := render_eq_error_iff.1 h
  refine render_eq_error_iff.2 ⟨before, argument, after, hcut, ?_, hstep argument hargument⟩
  intro earlier hearlier
  obtain ⟨text, htext⟩ := hbefore earlier hearlier
  obtain ⟨word, hword, -⟩ := exists_writesBoth htext
  exact ⟨word.value, hword.bare⟩

/-- What `dbus-send` can be given for a record, `gdbus` can be given without the types, word by
word; and what makes a record fail for `dbus-send` makes it fail for `gdbus`, signatures and
variants aside. -/
theorem render_gdbus_of_dbusSend (record : CallRecord) (scope : BusScope) :
    (∀ command, dbusSend.render record scope = .ok command → ∃ words : List TypedWord,
      List.Forall₂ WritesBoth record.arguments words ∧
      command = dbusSend.commandText record scope (words.map TypedWord.text) ∧
      gdbus.render record scope =
        .ok (gdbus.commandText record scope (words.map TypedWord.value))) ∧
    (∀ tag value, dbusSend.render record scope = .error (.unsafeLiteral tag value) →
      gdbus.render record scope = .error (.unsafeLiteral tag value)) ∧
    (∀ tag, dbusSend.render record scope = .error (.invalidHex tag) →
      gdbus.render record scope = .error (.invalidHex tag)) ∧
    ∀ tag tool, dbusSend.render record scope = .error (.unsupportedType tag tool) →
      tag ≠ 'g' → tag ≠ 'v' →
        gdbus.render record scope = .error (.unsupportedType tag "gdbus") := by
  refine ⟨fun command h ↦ ?_, fun tag value h ↦ ?_, fun tag h ↦ ?_,
    fun tag tool h hsignature hvariant ↦ ?_⟩
  · obtain ⟨texts, htexts, rfl⟩ := render_eq_ok_iff.1 h
    obtain ⟨words, hwords, hmap⟩ :=
      exists_forall₂_of_renderArgument (g := id) (fun _ _ ↦ exists_writesBoth) htexts
    rw [List.map_id] at hmap
    subst hmap
    have hbare : List.Forall₂ (fun argument value ↦ gdbus.renderArgument argument = .ok value)
        record.arguments (words.map TypedWord.value) :=
      List.forall₂_map_right_iff.2 (hwords.imp fun _ _ hword ↦ hword.bare)
    exact ⟨words, hwords, rfl, render_eq_ok_iff.2 ⟨_, hbare, rfl⟩⟩
  · exact render_gdbus_eq_error h fun _ ↦ (renderArgument_gdbus_eq_error · nofun)
  · exact render_gdbus_eq_error h fun _ ↦ (renderArgument_gdbus_eq_error · nofun)
  · exact render_gdbus_eq_error h fun _ ↦
      (renderArgument_gdbus_of_unsupported · hsignature hvariant)

/-- A record that both tools can be given; a bad literal in front of a bad encoding, and the other
way round; a type that neither takes; and a variant, which only one of them takes. -/
theorem render_gdbus_of_dbusSend_mixed :
    ∃ record : List Argument → CallRecord, (∀ arguments, (record arguments).arguments = arguments) ∧
      (∃ words : List TypedWord, List.Forall₂ WritesBoth [⟨'u', "7"⟩, ⟨'s', "68"⟩] words ∧
        dbusSend.commandText (record [⟨'u', "7"⟩, ⟨'s', "68"⟩]) .session
            (words.map TypedWord.text) =
          "dbus-send --session --dest=q --print-reply / i.M uint32:7 " ++
            "string:\"`echo 68 | xxd -r -p`\" " ∧
        gdbus.render (record [⟨'u', "7"⟩, ⟨'s', "68"⟩]) .session =
          .ok (gdbus.commandText (record [⟨'u', "7"⟩, ⟨'s', "68"⟩]) .session
            (words.map TypedWord.value))) ∧
      (dbusSend.render (record [⟨'i', "$"⟩, ⟨'s', "$"⟩]) .session =
          .error (.unsafeLiteral 'i' "$") ∧
        gdbus.render (record [⟨'i', "$"⟩, ⟨'s', "$"⟩]) .session =
          .error (.unsafeLiteral 'i' "$")) ∧
      (dbusSend.render (record [⟨'s', "$"⟩, ⟨'i', "$"⟩]) .session = .error (.invalidHex 's') ∧
        gdbus.render (record [⟨'s', "$"⟩, ⟨'i', "$"⟩]) .session = .error (.invalidHex 's')) ∧
      (dbusSend.render (record [⟨'b', "1"⟩, ⟨'h', "0"⟩, ⟨'g', "$"⟩]) .session =
          .error (.unsupportedType 'h' "dbus-send") ∧
        gdbus.render (record [⟨'b', "1"⟩, ⟨'h', "0"⟩, ⟨'g', "$"⟩]) .session =
          .error (.unsupportedType 'h' "gdbus")) ∧
      dbusSend.render (record [⟨'v', "68"⟩]) .session =
          .error (.unsupportedType 'v' "dbus-send") ∧
        gdbus.render (record [⟨'v', "68"⟩]) .session =
          .ok ("gdbus call --session --dest q --object-path / --method i.M " ++
            "\"`echo 68 | xxd -r -p`\" ") := by
  let record (arguments : List Argument) : CallRecord := ⟨"q", "i", "/", "M", arguments, ""⟩
  have hcommand : dbusSend.render (record [⟨'u', "7"⟩, ⟨'s', "68"⟩]) .session =
      .ok ("dbus-send --session --dest=q --print-reply / i.M uint32:7 " ++
        "string:\"`echo 68 | xxd -r -p`\" ") := by
    decide +kernel
  have hliteral : dbusSend.render (record [⟨'i', "$"⟩, ⟨'s', "$"⟩]) .session =
      .error (.unsafeLiteral 'i' "$") := by
    decide +kernel
  have hhex : dbusSend.render (record [⟨'s', "$"⟩, ⟨'i', "$"⟩]) .session =
      .error (.invalidHex 's') := by
    decide +kernel
  have htype : dbusSend.render (record [⟨'b', "1"⟩, ⟨'h', "0"⟩, ⟨'g', "$"⟩]) .session =
      .error (.unsupportedType 'h' "dbus-send") := by
    decide +kernel
  obtain ⟨words, hwords, htext, hbare⟩ :=
    (render_gdbus_of_dbusSend (record _) .session).1 _ hcommand
  refine ⟨record, fun _ ↦ rfl, ⟨words, hwords, htext.symm, hbare⟩, ⟨hliteral, ?_⟩, ⟨hhex, ?_⟩,
    ⟨htype, ?_⟩, by decide +kernel, by decide +kernel⟩
  · exact (render_gdbus_of_dbusSend (record _) .session).2.1 _ _ hliteral
  · exact (render_gdbus_of_dbusSend (record _) .session).2.2.1 _ hhex
  · exact (render_gdbus_of_dbusSend (record _) .session).2.2.2 _ _ htype (by decide) (by decide)

end Profile

end BusReplay
