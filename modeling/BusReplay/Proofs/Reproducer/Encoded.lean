import BusReplay.Proofs.Profile.Payloads
import BusReplay.Proofs.Reproducer.ParseFirst
import BusReplay.Proofs.Text.Hex

/-!
# Encoded values of a line

A value that the shell is to decode has to consist of digits, and a line with any other character
in such a value is rejected. How many digits there are is not looked at. So an odd number of them
gets into a command, although it writes no bytes, and it is the one thing that can keep the payloads
of a command from being decoded.
-/

namespace BusReplay

/-- The bytes of the payloads of a text, or nothing if one of them is not ended or writes no
bytes. -/
def Shell.decodedPayloads? (text : List Char) : Option (List (List UInt8)) := do
  let payloads ← payloads? text
  payloads.mapM Text.unhex?

namespace ArgumentRule

variable {rule : ArgumentRule} {value : String}

theorem render_eq_error_iff {e : FormatError} :
    rule.render value = .error e ↔ rule.renderValue value = .error e := by
  have hlabel (body : String) :
      (pure (rule.label ++ body) : Except FormatError String) ≠ .error e := nofun
  rw [render, bind_eq_error_iff]
  simp only [hlabel, and_false, exists_false, or_false]

/-- A value that is to be decoded is rejected for a character that is no digit. -/
theorem renderValue_eq_invalidHex_iff {tag : Char} :
    rule.renderValue value = .error (.invalidHex tag) ↔ rule.tag = tag ∧
      rule.rendering = .hexDecoded ∧ ∃ c ∈ value.toList, isHexDigit c = false := by
  unfold renderValue
  cases rule.rendering with
  | verbatim =>
    dsimp only
    split
    · simp
    · simp
  | hexDecoded =>
    dsimp only
    split
    · next hdigits => simpa using fun _ ↦ List.all_eq_true.1 hdigits
    · next hdigits => simpa using fun _ ↦ hdigits

end ArgumentRule

namespace Profile

variable {profile : Profile} {argument : Argument}

/-- An argument is refused for its digits exactly when a character of a value that is to be decoded
is no digit. -/
theorem renderArgument_eq_invalidHex_iff {tag : Char} :
    profile.renderArgument argument = .error (.invalidHex tag) ↔ argument.tag = tag ∧
      profile.isDecoded argument = true ∧ ∃ c ∈ argument.value.toList, isHexDigit c = false := by
  unfold renderArgument isDecoded
  cases hrule : profile.rule? argument.tag with
  | none => simp
  | some rule =>
    have htag : rule.tag = argument.tag := by simpa using List.find?_some hrule
    rw [Option.any_some, beq_iff_eq, ← htag]
    exact ArgumentRule.render_eq_error_iff.trans ArgumentRule.renderValue_eq_invalidHex_iff

/-- A value that is to be decoded consists of digits when there is a command. -/
theorem isHexDigit_of_render {record : CallRecord} {scope : BusScope} {command : String}
    (h : profile.render record scope = .ok command) (hmem : argument ∈ record.arguments)
    (hdecoded : profile.isDecoded argument = true) :
    ∀ c ∈ argument.value.toList, isHexDigit c = true := by
  obtain ⟨word, hword⟩ := exists_render_eq_ok_iff.1 ⟨command, h⟩ argument hmem
  by_contra! hother
  obtain ⟨c, hc, hdigit⟩ := hother
  have hinvalid := renderArgument_eq_invalidHex_iff.2
    ⟨rfl, hdecoded, c, hc, Bool.eq_false_iff.2 hdigit⟩
  rw [hword] at hinvalid
  cases hinvalid

end Profile

namespace Shell

variable {target : Target} {record : CallRecord} {scope : BusScope} {command : String}

/-- The payloads of a command can be decoded when the values that are to be decoded write bytes. -/
theorem exists_decodedPayloads?_iff (hnamed : record.IsNamed)
    (hrender : target.profile.render record scope = .ok command) :
    (∃ decoded, decodedPayloads? command.toList = some decoded) ↔
      ∀ argument ∈ record.arguments, target.profile.isDecoded argument = true →
        ∃ bytes, Text.unhex? argument.value.toList = some bytes := by
  have hpayloads := Target.payloads?_of_render hnamed hrender
  rw [decodedPayloads?, hpayloads, Option.bind_eq_bind, Option.bind_some, exists_mapM_eq_some_iff,
    List.forall_mem_map]
  simp only [List.mem_filter, and_imp]

end Shell

namespace Reproducer

open Shell (decodedPayloads?)

/-- A command holds nothing but digits in the values that are to be decoded. Such a value writes
bytes exactly if the number of its digits is even, and the payloads of a command for a proper bus
name can be decoded exactly if this is so for all of them. A wanted line is rejected for a value
with any other character in it, unless an earlier argument is at fault. -/
theorem digits_of_reproduce (target : Target) (scope : BusScope) (filter : ResultFilter)
    (line busName : String) :
    (∀ command, reproduce ⟨target.profile, scope, filter⟩ line busName = .ok (.command command) →
      ∃ record, CallRecord.parse line busName = .ok record ∧
        (∀ argument ∈ record.arguments, target.profile.isDecoded argument = true →
          (∀ c ∈ argument.value.toList, isHexDigit c = true) ∧
          ((∃ bytes, Text.unhex? argument.value.toList = some bytes) ↔
            argument.value.toList.length % 2 = 0)) ∧
        (validateBusName busName = .ok () →
          ((∃ decoded, decodedPayloads? command.toList = some decoded) ↔
            ∀ argument ∈ record.arguments, target.profile.isDecoded argument = true →
              argument.value.toList.length % 2 = 0))) ∧
    ∀ tag, reproduce ⟨target.profile, scope, filter⟩ line busName =
        .error (.format (.invalidHex tag)) ↔
      ∃ record before argument after, CallRecord.parse line busName = .ok record ∧
        filter.accepts record.result = true ∧ record.arguments = before ++ argument :: after ∧
        (∀ earlier ∈ before, ∃ word, target.profile.renderArgument earlier = .ok word) ∧
        argument.tag = tag ∧ target.profile.isDecoded argument = true ∧
        ∃ c ∈ argument.value.toList, isHexDigit c = false := by
  constructor
  · intro command hcommand
    obtain ⟨record, hparse, hrender⟩ := rerun_eq_ok_iff.1 (rerun_of_reproduce_eq_command hcommand)
    have hdigits : ∀ argument ∈ record.arguments, target.profile.isDecoded argument = true →
        ∀ c ∈ argument.value.toList, isHexDigit c = true := fun _ hmem hdecoded ↦
      Profile.isHexDigit_of_render hrender hmem hdecoded
    have heven : ∀ argument ∈ record.arguments, target.profile.isDecoded argument = true →
        ((∃ bytes, Text.unhex? argument.value.toList = some bytes) ↔
          argument.value.toList.length % 2 = 0) := fun argument hmem hdecoded ↦ by
      rw [Text.exists_unhex?_eq_some_iff, and_iff_right (hdigits argument hmem hdecoded)]
    refine ⟨record, hparse, fun argument hmem hdecoded ↦
      ⟨hdigits argument hmem hdecoded, heven argument hmem hdecoded⟩, fun hname ↦ ?_⟩
    rw [Shell.exists_decodedPayloads?_iff (CallRecord.isNamed_of_parse hname hparse) hrender]
    exact forall₂_congr fun argument hmem ↦ forall_congr' fun hdecoded ↦
      heven argument hmem hdecoded
  · intro tag
    simp only [reproduce_eq_format_error_iff, Profile.render_eq_error_iff,
      Profile.renderArgument_eq_invalidHex_iff]
    constructor
    · rintro ⟨record, hparse, hwanted, before, argument, after, hcut, hbefore, hfault⟩
      exact ⟨record, before, argument, after, hparse, hwanted, hcut, hbefore, hfault⟩
    · rintro ⟨record, before, argument, after, hparse, hwanted, hcut, hbefore, hfault⟩
      exact ⟨record, hparse, hwanted, before, argument, after, hcut, hbefore, hfault⟩

/-- An odd number of digits gets into a command. -/
theorem not_forall_unhex :
    ¬ ∀ (target : Target) (scope : BusScope) (filter : ResultFilter) (line busName command : String)
      (record : CallRecord),
      reproduce ⟨target.profile, scope, filter⟩ line busName = .ok (.command command) →
      CallRecord.parse line busName = .ok record →
      ∀ argument ∈ record.arguments, target.profile.isDecoded argument = true →
        ∃ bytes, Text.unhex? argument.value.toList = some bytes := by
  intro h
  obtain ⟨bytes, hbytes⟩ := h .dbusSend .session .onlyCrash "a.B;/;M;s;686;Crash" "org.x.L"
    ("dbus-send --session --dest=org.x.L --print-reply / a.B.M " ++
      "string:\"\x60echo 686 | xxd -r -p\x60\" ")
    ⟨"org.x.L", "a.B", "/", "M", [⟨'s', "686"⟩], "Crash"⟩ (by decide +kernel) (by decide +kernel)
    ⟨'s', "686"⟩ List.mem_cons_self (by decide +kernel)
  have hlength : "686".toList.length = 2 * bytes.length := Text.length_of_unhex?_eq_some hbytes
  have hodd : "686".toList.length = 3 := rfl
  omega

end Reproducer

end BusReplay
