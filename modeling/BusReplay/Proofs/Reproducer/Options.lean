import BusReplay.Proofs.Profile.Payloads
import BusReplay.Proofs.Reproducer.Command
import BusReplay.Proofs.Shell.Expansion

/-!
# Arguments that begin with a dash

A tool takes a word that begins with a dash for an option of its own. Under `dbus-send` no argument
becomes such a word, as every value has its type in front of it. Under `gdbus` the values are bare,
so a negative number is such a word, and so is a text that begins with a dash, once the shell has
decoded it.
-/

namespace BusReplay

open Shell

namespace Shell

def IsDashed (cs : List Char) : Prop := cs.head? = some '-'

instance (cs : List Char) : Decidable (IsDashed cs) :=
  inferInstanceAs (Decidable (cs.head? = some '-'))

def dashByte : UInt8 := 45

/-- Only newlines are lost at the end, so a text that begins with another byte keeps it. -/
theorem head?_chomp {b : UInt8} (hb : b ≠ newlineByte) (bytes : List UInt8) :
    (chomp bytes).head? = some b ↔ bytes.head? = some b := by
  have hprefix : chomp bytes <+: bytes := List.rdropWhile_prefix _ bytes
  constructor
  · intro hhead
    obtain ⟨rest, hchomp⟩ := List.head?_eq_some_iff.1 hhead
    obtain ⟨lost, hbytes⟩ := hprefix
    rw [← hbytes, hchomp, List.cons_append, List.head?_cons]
  · intro hhead
    obtain ⟨rest, rfl⟩ := List.head?_eq_some_iff.1 hhead
    have hne : chomp (b :: rest) ≠ [] := fun hnil ↦
      hb (by simpa using List.rdropWhile_eq_nil_iff.1 hnil b List.mem_cons_self)
    obtain ⟨first, kept, hchomp⟩ := List.exists_cons_of_ne_nil hne
    rw [hchomp, List.cons_prefix_cons] at hprefix
    rw [hchomp, List.head?_cons, hprefix.1]

end Shell

/-! ## Words of arguments -/

namespace Profile

/-- The bytes that an argument stands for. -/
def loggedBytes? (profile : Profile) (argument : Argument) : Option (List UInt8) :=
  if profile.isDecoded argument then Text.unhex? argument.value.toList
  else some (encode argument.value.toList)

variable {target : Target} {rule : ArgumentRule} {argument : Argument} {word : Word}

/-- A label begins with the letter of a type, unless there is none. -/
theorem head?_label (h : rule ∈ target.profile.rules) :
    (target = .dbusSend ∧ ∃ c b, c ≠ '-' ∧ b ≠ dashByte ∧ rule.label.toList.head? = some c ∧
      (encode rule.label.toList).head? = some b) ∨
    target = .gdbus ∧ rule.label = "" := by
  cases target with
  | dbusSend =>
    have hlabels : ∀ rule ∈ dbusSend.rules,
        (rule.label.toList.head?.any (· != '-')) = true ∧
          ((encode rule.label.toList).head?.any (· != dashByte)) = true := by
      decide +kernel
    obtain ⟨hletter, hbyte⟩ := hlabels rule h
    obtain ⟨c, hc, hdash⟩ := (Option.any_eq_true _ _).1 hletter
    obtain ⟨b, hb, hdashByte⟩ := (Option.any_eq_true _ _).1 hbyte
    exact .inl ⟨rfl, c, b, by simpa using hdash, by simpa using hdashByte, hc, hb⟩
  | gdbus =>
    have hlabels : ∀ rule ∈ gdbus.rules, rule.label = "" := by decide
    exact .inr ⟨rfl, hlabels rule h⟩

/-- Behind a type no dash comes first. -/
theorem isDashed_label_append (h : rule ∈ target.profile.rules) (cs : List Char) :
    IsDashed (rule.label.toList ++ cs) ↔ target = .gdbus ∧ IsDashed cs := by
  rcases head?_label h with ⟨rfl, c, -, hc, -, hhead, -⟩ | ⟨rfl, hlabel⟩
  · simp [IsDashed, List.head?_append, hhead, hc]
  · simp [hlabel]

/-- A dash in front of a value begins the word for `gdbus` only, where there are no labels. -/
theorem head?_encode_label_append (h : rule ∈ target.profile.rules) (bytes : List UInt8) :
    (encode rule.label.toList ++ bytes).head? = some dashByte ↔
      target = .gdbus ∧ bytes.head? = some dashByte := by
  rcases head?_label h with ⟨rfl, -, b, -, hb, -, hhead⟩ | ⟨rfl, hlabel⟩
  · simp [List.head?_append, hhead, hb]
  · simp [hlabel, encode]

/-- The value of an argument is written as it is, or it holds no dash. -/
theorem Writes.isDashed_iff (h : target.profile.Writes argument word) :
    IsDashed (Word.chars word) ↔ target = .gdbus ∧ IsDashed argument.value.toList := by
  obtain ⟨rule, hrule, haccepts, rfl⟩ := h
  rw [ArgumentRule.word, Word.chars_append, Word.chars_ofText,
    isDashed_label_append (List.mem_of_find?_eq_some hrule)]
  cases hrendering : rule.rendering with
  | verbatim => rw [Rendering.pieces, Word.chars_ofText]
  | hexDecoded =>
    rw [hrendering, Rendering.accepts, List.all_eq_true] at haccepts
    have hvalue : ¬ IsDashed argument.value.toList := fun hdash ↦
      absurd (haccepts '-' (List.mem_of_head? hdash)) (by decide)
    have hquoted : ¬ IsDashed (Word.chars (Rendering.hexDecoded.pieces argument.value.toList)) := by
      obtain ⟨front, back, hchars⟩ := Piece.exists_chars_decoded
      simp [IsDashed, Rendering.pieces, Word.chars, hchars]
    simp [hvalue, hquoted]

/-- The shell hands on what stands for itself, and of what it decodes all but the last newlines. -/
theorem Writes.exists_given (programs : Programs) (h : target.profile.Writes argument word)
    {bytes : List UInt8} (hbytes : target.profile.loggedBytes? argument = some bytes)
    (hnul : 0 ∉ bytes) :
    ∃ given, programs.argument (.ofList (Word.chars word)) = some given ∧
      (given.head? = some dashByte ↔ target = .gdbus ∧ bytes.head? = some dashByte) := by
  obtain ⟨rule, hrule, haccepts, rfl⟩ := h
  have hmem : rule ∈ target.profile.rules := List.mem_of_find?_eq_some hrule
  rw [loggedBytes?, isDecoded, hrule, Option.any_some] at hbytes
  have hexpand : ∃ given, programs.expand .bare
      (Word.chars (rule.rendering.pieces argument.value.toList)) = some given ∧
      (given.head? = some dashByte ↔ bytes.head? = some dashByte) := by
    cases hrendering : rule.rendering with
    | verbatim =>
      rw [hrendering] at hbytes haccepts
      have hbare : ∀ c ∈ argument.value.toList, isBare c = true := fun c hc ↦
        (Rendering.isInert_pieces haccepts).2 (.bare c) (List.mem_map_of_mem hc)
      refine ⟨bytes, ?_, Iff.rfl⟩
      rw [Rendering.pieces, ← List.append_nil (Word.chars _), Programs.expand_ofText hbare,
        Programs.expand, Option.map_some, List.append_nil]
      exact hbytes
    | hexDecoded =>
      rw [hrendering] at hbytes
      have hpieces : Word.chars (Rendering.hexDecoded.pieces argument.value.toList) =
          (Piece.decoded argument.value.toList).chars ++ [] := rfl
      refine ⟨chomp bytes, ?_, head?_chomp (by decide) bytes⟩
      rw [hpieces, Programs.expand_decoded hbytes hnul, Programs.expand, Option.map_some,
        List.append_nil]
  obtain ⟨given, hgiven, hhead⟩ := hexpand
  refine ⟨encode rule.label.toList ++ given, ?_, ?_⟩
  · rw [Programs.argument, String.toList_ofList, ArgumentRule.word, Word.chars_append,
      Programs.expand_ofText (isBare_label hmem), hgiven, Option.map_some]
  · rw [head?_encode_label_append hmem, hhead]

end Profile

/-! ## Commands -/

/-- How the word of an argument begins: in the command, and when the tool is given it. -/
structure Begins (programs : Programs) (target : Target) (argument : Argument) (word : Word) :
    Prop where
  written : IsDashed (Word.chars word) ↔ target = .gdbus ∧ IsDashed argument.value.toList
  given : ∀ bytes, target.profile.loggedBytes? argument = some bytes → 0 ∉ bytes →
    ∃ given, programs.argument (.ofList (Word.chars word)) = some given ∧
      (given.head? = some dashByte ↔ target = .gdbus ∧ bytes.head? = some dashByte)

namespace Reproducer

/-- Behind the header of a command, the words that begin with a dash are those of `gdbus` whose
values begin with one. -/
theorem begins_reproduced (programs : Programs) {target : Target} {scope : BusScope}
    {filter : ResultFilter} {line busName command : String}
    (hname : validateBusName busName = .ok ())
    (h : reproduce ⟨target.profile, scope, filter⟩ line busName = .ok (.command command)) :
    ∃ record words, CallRecord.parse line busName = .ok record ∧
      (∀ word ∈ target.headerCommand record scope ++ words, Word.IsInert word) ∧
      command.toList = commandChars (target.headerCommand record scope ++ words) ∧
      List.Forall₂ (Begins programs target) record.arguments words := by
  obtain ⟨record, hparse, hrender⟩ := rerun_eq_ok_iff.1 (rerun_of_reproduce_eq_command h)
  have hnamed : record.IsNamed := CallRecord.isNamed_of_parse hname hparse
  obtain ⟨words, hwords, hinert, hcommand⟩ := Target.exists_command_of_render hnamed hrender
  refine ⟨record, words, hparse, hinert, hcommand, hwords.imp fun argument word hwrites ↦ ?_⟩
  exact ⟨hwrites.isDashed_iff, fun _ hbytes hnul ↦ hwrites.exists_given programs hbytes hnul⟩

/-- A negative number, and a text that begins with a dash once it is decoded. -/
theorem begins_reproduced_negative :
    ∃ command record number text,
      reproduce ⟨Target.gdbus.profile, .session, .onlyCrash⟩ "a.B;/;M;i;-4;s;2d78;Crash"
        "org.x.L" = .ok (.command command) ∧
      command.toList = commandChars (Target.gdbus.headerCommand record .session ++ [number, text]) ∧
      IsDashed (Word.chars number) ∧ ¬ IsDashed (Word.chars text) ∧
      ∃ given, Programs.standard.argument (.ofList (Word.chars text)) = some given ∧
        given.head? = some dashByte := by
  have hname : validateBusName "org.x.L" = .ok () := by decide +kernel
  have hcommand : reproduce ⟨Target.gdbus.profile, .session, .onlyCrash⟩
      "a.B;/;M;i;-4;s;2d78;Crash" "org.x.L" = .ok (.command
        ("gdbus call --session --dest org.x.L --object-path / --method a.B.M " ++
          "-4 \"\x60echo 2d78 | xxd -r -p\x60\" ")) := by
    decide +kernel
  obtain ⟨record, words, hparse, -, hwritten, hbegins⟩ :=
    begins_reproduced Programs.standard hname hcommand
  have hrecord : CallRecord.parse "a.B;/;M;i;-4;s;2d78;Crash" "org.x.L" =
      .ok ⟨"org.x.L", "a.B", "/", "M", [⟨'i', "-4"⟩, ⟨'s', "2d78"⟩], "Crash"⟩ := by
    decide +kernel
  obtain rfl := Except.ok.inj (hrecord.symm.trans hparse)
  obtain ⟨number, others, hnumber, hothers, rfl⟩ := List.forall₂_cons_left_iff.1 hbegins
  obtain ⟨text, rest, htext, hrest, rfl⟩ := List.forall₂_cons_left_iff.1 hothers
  obtain rfl := List.forall₂_nil_left_iff.1 hrest
  obtain ⟨given, hgiven, hhead⟩ := htext.given [0x2D, 0x78] (by decide +kernel) (by decide)
  exact ⟨_, _, number, text, hcommand, hwritten, hnumber.written.2 ⟨rfl, by decide⟩,
    fun hdashed ↦ absurd (htext.written.1 hdashed).2 (by decide), given, hgiven,
    hhead.2 ⟨rfl, rfl⟩⟩

/-- A negative number is written like an option. -/
theorem not_forall_positional :
    ¬ ∀ (scope : BusScope) (filter : ResultFilter) (line busName command : String)
      (record : CallRecord) (words : List Word), validateBusName busName = .ok () →
      reproduce ⟨Target.gdbus.profile, scope, filter⟩ line busName = .ok (.command command) →
      CallRecord.parse line busName = .ok record → (∀ word ∈ words, Word.IsInert word) →
      command.toList = commandChars (Target.gdbus.headerCommand record scope ++ words) →
      ∀ word ∈ words, ¬ IsDashed (Word.chars word) := by
  intro h
  have hinert : Word.IsInert (Word.ofText "-4".toList) :=
    Word.isInert_ofText (by decide) (List.all_eq_true.1 (by decide))
  refine h .session .onlyCrash "a.B;/;M;i;-4;Crash" "org.x.L"
    "gdbus call --session --dest org.x.L --object-path / --method a.B.M -4 "
    ⟨"org.x.L", "a.B", "/", "M", [⟨'i', "-4"⟩], "Crash"⟩ [Word.ofText "-4".toList]
    (by decide +kernel) (by decide +kernel) (by decide +kernel)
    (List.forall_mem_singleton.2 hinert) (by decide +kernel) _ List.mem_cons_self ?_
  decide

end Reproducer

end BusReplay
