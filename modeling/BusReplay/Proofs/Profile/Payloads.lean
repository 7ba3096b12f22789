import BusReplay.Proofs.Profile.Words
import BusReplay.Proofs.Shell.Payload

/-!
# The payloads of a command

The arguments of a command that the shell decodes can be read off the command by a search that
knows nothing of its words. The search finds their values as they were logged, in order, and every
place that it stops at stands in the word of such an argument. Neither the header nor a value that
is copied holds anything that the search could take for a payload.
-/

namespace BusReplay

open Shell

namespace Profile

variable {profile : Profile} {argument : Argument} {arguments : List Argument} {word : Word}
  {words : List Word}

/-- Whether the shell is to decode the value of an argument. -/
def isDecoded (profile : Profile) (argument : Argument) : Bool :=
  (profile.rule? argument.tag).any fun rule ↦ rule.rendering == .hexDecoded

/-- A word has the shell decode its value if the rule for the argument says so. -/
theorem hexes_of_writes (h : profile.Writes argument word) :
    Word.hexes word = if profile.isDecoded argument then [argument.value.toList] else [] := by
  obtain ⟨rule, hrule, -, rfl⟩ := h
  rw [ArgumentRule.word, Word.hexes_append, Word.hexes_ofText, isDecoded, hrule, Option.any_some]
  cases rule.rendering with
  | verbatim => exact Word.hexes_ofText _
  | hexDecoded => rfl

/-- The texts that the shell decodes are the values of the arguments that it is to decode. -/
theorem flatMap_hexes_of_writes (h : List.Forall₂ profile.Writes arguments words) :
    words.flatMap Word.hexes =
      (arguments.filter profile.isDecoded).map fun argument ↦ argument.value.toList := by
  induction h with
  | nil => rfl
  | @cons argument word _ _ hwrites _ ih =>
    rw [List.flatMap_cons, hexes_of_writes hwrites, ih, List.filter_cons]
    split <;> rfl

/-- In front of a text that is to be decoded stands the label of its rule. -/
theorem exists_rule_of_writes {before after : Word} {piece : Piece}
    (h : profile.Writes argument (before ++ piece :: after)) (hhex : piece.hex? ≠ none) :
    ∃ rule, profile.rule? argument.tag = some rule ∧ rule.rendering = .hexDecoded ∧
      before = Word.ofText rule.label.toList := by
  obtain ⟨rule, hrule, -, hword⟩ := h
  obtain ⟨between, hbefore, hpieces⟩ := Text.exists_of_append_eq_append_cons
    (Piece.notMem_ofText hhex rule.label.toList) hword.symm
  refine ⟨rule, hrule, ?_⟩
  cases hrendering : rule.rendering with
  | verbatim =>
    rw [hrendering, Rendering.pieces] at hpieces
    exact absurd (hpieces ▸ List.mem_append_right between List.mem_cons_self)
      (Piece.notMem_ofText hhex _)
  | hexDecoded =>
    rw [hrendering, Rendering.pieces] at hpieces
    cases between with
    | nil => exact ⟨rfl, by rw [hbefore, List.append_nil]⟩
    | cons other between => simp at hpieces

/-- Words for the arguments make a command. -/
theorem render_of_writes {target : Target} {record : CallRecord} {scope : BusScope}
    (hnamed : record.IsNamed) (h : List.Forall₂ target.profile.Writes record.arguments words) :
    target.profile.render record scope =
      .ok (.ofList (commandChars (target.headerCommand record scope ++ words))) := by
  let texts : List String := words.map fun word ↦ .ofList (Word.chars word)
  have htexts : List.Forall₂ (fun argument text ↦ target.profile.renderArgument argument = .ok text)
      record.arguments texts := by
    rw [List.forall₂_map_right_iff]
    exact h.imp fun _ word hwrites ↦
      renderArgument_eq_ok_iff.2 ⟨word, hwrites, String.toList_ofList⟩
  rw [render_eq_ok_iff]
  refine ⟨texts, htexts, String.toList_injective ?_⟩
  have hspaced : (texts.map fun text ↦ text ++ " ").flatMap String.toList = commandChars words := by
    simp [texts, commandChars, List.flatMap_map]
  calc
    _ = commandChars (target.headerCommand record scope) ++ commandChars words := by
      rw [String.toList_ofList, commandChars, commandChars, commandChars, List.flatMap_append]
    _ = (target.profile.fillHeader record scope).toList ++ [' '] ++ commandChars words := by
      rw [Target.fillHeader_append_space target hnamed]
    _ = (target.profile.commandText record scope texts).toList := by
      rw [commandText, String.toList_append, String.toList_append, String.toList_join, hspaced]
      rfl

end Profile

namespace Target

variable {record : CallRecord} {scope : BusScope} {command : String}

theorem hexes_headerCommand (target : Target) (record : CallRecord) (scope : BusScope) :
    (target.headerCommand record scope).flatMap Word.hexes = [] := by
  rw [headerCommand, List.flatMap_map, List.flatMap_eq_nil_iff]
  intro word _
  exact Word.hexes_ofText word.toList

theorem notMem_headerCommand {target : Target} {before after : Word} {piece : Piece}
    (hhex : piece.hex? ≠ none) :
    before ++ piece :: after ∉ target.headerCommand record scope := by
  intro hmem
  obtain ⟨word, -, hword⟩ := List.mem_map.1 hmem
  exact absurd (hword ▸ List.mem_append_right before List.mem_cons_self)
    (Piece.notMem_ofText hhex word.toList)

/-- The payloads of a command are its encoded values, in their order. -/
theorem payloads?_of_render {target : Target} (hnamed : record.IsNamed)
    (hrender : target.profile.render record scope = .ok command) :
    payloads? command.toList = some ((record.arguments.filter target.profile.isDecoded).map
      fun argument ↦ argument.value.toList) := by
  obtain ⟨words, hwords, hinert, hcommand⟩ := exists_command_of_render hnamed hrender
  rw [hcommand, payloads?_commandChars hinert, List.flatMap_append, hexes_headerCommand,
    List.nil_append, Profile.flatMap_hexes_of_writes hwords]

/-- The search for payloads yields the values that are to be decoded, in order and as they were
logged. Each of them is found at the quote of its own word: what stands in front of it is the
command of the earlier arguments, and then the label of the rule. -/
theorem payloads_of_render {target : Target} {line busName : String}
    (hname : validateBusName busName = .ok ())
    (hparse : CallRecord.parse line busName = .ok record)
    (hrender : target.profile.render record scope = .ok command) :
    payloads? command.toList = some ((record.arguments.filter target.profile.isDecoded).map
      fun argument ↦ argument.value.toList) ∧
    ∀ front back, command.toList = front ++ (payloadStart ++ back) →
      ∃ earlier argument later rule beforehand, record.arguments = earlier ++ argument :: later ∧
        target.profile.rule? argument.tag = some rule ∧ rule.rendering = .hexDecoded ∧
        target.profile.render { record with arguments := earlier } scope = .ok beforehand ∧
        front = (beforehand ++ rule.label ++ "\"").toList := by
  have hnamed : record.IsNamed := CallRecord.isNamed_of_parse hname hparse
  constructor
  · exact payloads?_of_render hnamed hrender
  · intro front back hfront
    obtain ⟨words, hwords, hinert, hcommand⟩ := exists_command_of_render hnamed hrender
    rw [hcommand] at hfront
    obtain ⟨earlier, before, piece, after, later, hcut, hhex, rfl⟩ :=
      exists_word_of_commandChars hinert hfront
    obtain ⟨written, rfl, rfl⟩ := Text.exists_of_append_eq_append_cons
      (notMem_headerCommand hhex) hcut
    have hearlier := List.forall₂_take_append record.arguments written _ hwords
    have hlater := List.forall₂_drop_append record.arguments written _ hwords
    obtain ⟨argument, rest, hargument, -, hrest⟩ := List.forall₂_cons_right_iff.1 hlater
    obtain ⟨rule, hrule, hrendering, rfl⟩ := Profile.exists_rule_of_writes hargument hhex
    have harguments : record.arguments =
        record.arguments.take written.length ++ argument :: rest := by
      rw [← hrest, List.take_append_drop]
    have hbeforehand := @Profile.render_of_writes _ target
      { record with arguments := record.arguments.take written.length } scope
      ⟨hnamed.busName, hnamed.interface, hnamed.objectPath, hnamed.method⟩ hearlier
    refine ⟨_, argument, rest, rule, _, harguments, hrule, hrendering, hbeforehand, ?_⟩
    rw [String.toList_append, String.toList_append, String.toList_ofList, Word.chars_ofText,
      List.append_assoc]
    rfl

/-- Names that sound like the markers, digits in both cases, a number between two encoded values,
and an empty one. -/
theorem payloads_of_render_mixed :
    validateBusName "q.Q" = .ok () ∧
      CallRecord.parse "a.echo;/echo;xxd;s;C3a9;y;-1;o;;Crash" "q.Q" =
        .ok ⟨"q.Q", "a.echo", "/echo", "xxd", [⟨'s', "C3a9"⟩, ⟨'y', "-1"⟩, ⟨'o', ""⟩], "Crash"⟩ ∧
      dbusSend.profile.render
          ⟨"q.Q", "a.echo", "/echo", "xxd", [⟨'s', "C3a9"⟩, ⟨'y', "-1"⟩, ⟨'o', ""⟩], "Crash"⟩
          .system =
        .ok ("dbus-send --system --dest=q.Q --print-reply /echo a.echo.xxd " ++
          "string:\"`echo C3a9 | xxd -r -p`\" byte:-1 objpath:\"`echo  | xxd -r -p`\" ") ∧
      payloads? ("dbus-send --system --dest=q.Q --print-reply /echo a.echo.xxd " ++
          "string:\"`echo C3a9 | xxd -r -p`\" byte:-1 objpath:\"`echo  | xxd -r -p`\" ").toList =
        some ["C3a9".toList, []] := by
  have hname : validateBusName "q.Q" = .ok () := by decide +kernel
  have hparse : CallRecord.parse "a.echo;/echo;xxd;s;C3a9;y;-1;o;;Crash" "q.Q" =
      .ok ⟨"q.Q", "a.echo", "/echo", "xxd", [⟨'s', "C3a9"⟩, ⟨'y', "-1"⟩, ⟨'o', ""⟩], "Crash"⟩ := by
    decide +kernel
  have hrender : dbusSend.profile.render
      ⟨"q.Q", "a.echo", "/echo", "xxd", [⟨'s', "C3a9"⟩, ⟨'y', "-1"⟩, ⟨'o', ""⟩], "Crash"⟩ .system =
      .ok ("dbus-send --system --dest=q.Q --print-reply /echo a.echo.xxd " ++
        "string:\"`echo C3a9 | xxd -r -p`\" byte:-1 objpath:\"`echo  | xxd -r -p`\" ") := by
    decide +kernel
  obtain ⟨hpayloads, -⟩ := payloads_of_render hname hparse hrender
  exact ⟨hname, hparse, hrender, hpayloads.trans (by decide +kernel)⟩

end Target

end BusReplay
