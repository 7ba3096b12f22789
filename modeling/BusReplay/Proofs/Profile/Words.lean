import BusReplay.Profile.Tools
import BusReplay.Proofs.Profile.Rendering
import BusReplay.Proofs.Profile.Template
import BusReplay.Proofs.Record.Named

/-!
# The words of a command

Rendering an argument yields one word: the label of its rule, and behind it the value as it is or
as a quoted piece. The header of a profile yields a fixed number of words, provided that no text
that is filled in holds a brace. A rendered command is the words of its header and the words of
its arguments, in this order and nothing else.
-/

namespace BusReplay

open Shell

/-! ## Arguments -/

namespace Rendering

def accepts : Rendering → List Char → Bool
  | verbatim, cs => isPlainLiteral cs
  | hexDecoded, cs => cs.all isHexDigit

def pieces : Rendering → List Char → Word
  | verbatim, cs => Word.ofText cs
  | hexDecoded, cs => [.decoded cs]

theorem isInert_pieces {rendering : Rendering} {cs : List Char}
    (h : rendering.accepts cs = true) : Word.IsInert (rendering.pieces cs) := by
  cases rendering with
  | verbatim =>
    simp only [accepts, isPlainLiteral, Bool.and_eq_true, List.all_eq_true] at h
    refine Word.isInert_ofText (by simpa using h.1) fun c hc ↦ ?_
    have hliteral := h.2 c hc
    simp only [isLiteralChar, isBare, Bool.or_eq_true, beq_iff_eq, List.contains_iff_mem,
      List.mem_cons] at hliteral ⊢
    tauto
  | hexDecoded =>
    rw [accepts, List.all_eq_true] at h
    exact ⟨by simp [pieces], by simpa [pieces, Piece.IsInert] using h⟩

/-- The pieces tell the value and how it was rendered. -/
theorem pieces_injective {r s : Rendering} {cs ds : List Char} (h : r.pieces cs = s.pieces ds) :
    r = s ∧ cs = ds := by
  cases r <;> cases s
  · exact ⟨rfl, Word.ofText_injective h⟩
  · cases cs <;> simp [pieces, Word.ofText] at h
  · cases ds <;> simp [pieces, Word.ofText] at h
  · simpa [pieces] using h

end Rendering

theorem toList_decodeFragment (hex : String) :
    (decodeFragment hex).toList = (Piece.decoded hex.toList).chars := by
  have hparts (front middle bar command back : String) :
      (front ++ middle ++ bar ++ command ++ back).toList =
        front.toList ++ (middle.toList ++ (bar.toList ++ command.toList ++ back.toList)) := by
    simp
  have hclosing : closing = " | ".toList ++ hexDecodeCommand.toList ++ "`\"".toList := by decide
  calc
    _ = opening ++ (hex.toList ++ (" | ".toList ++ hexDecodeCommand.toList ++ "`\"".toList)) :=
      hparts _ _ _ _ _
    _ = opening ++ (hex.toList ++ closing) := by rw [← hclosing]

namespace ArgumentRule

/-- The word that a value becomes under a rule. -/
def word (rule : ArgumentRule) (value : String) : Word :=
  Word.ofText rule.label.toList ++ rule.rendering.pieces value.toList

theorem renderValue_eq_ok_iff {rule : ArgumentRule} {value text : String} :
    rule.renderValue value = .ok text ↔ rule.rendering.accepts value.toList = true ∧
      text.toList = Word.chars (rule.rendering.pieces value.toList) := by
  unfold renderValue
  cases rule.rendering with
  | verbatim =>
    by_cases h : isPlainLiteral value.toList = true
    · rw [if_pos h, Except.ok.injEq, ← String.toList_inj, Rendering.pieces, Word.chars_ofText]
      simp [Rendering.accepts, h, eq_comm]
    · simp [Rendering.accepts, h]
  | hexDecoded =>
    by_cases h : value.toList.all isHexDigit = true
    · rw [if_pos h, Except.ok.injEq, ← String.toList_inj, toList_decodeFragment, Rendering.pieces]
      simp [Rendering.accepts, h, Word.chars, eq_comm]
    · simp [Rendering.accepts, h]

/-- A value is rendered exactly when it is accepted, and then as the characters of its word. -/
theorem render_eq_ok_iff {rule : ArgumentRule} {value text : String} :
    rule.render value = .ok text ↔
      rule.rendering.accepts value.toList = true ∧ text.toList = Word.chars (rule.word value) := by
  rw [render, bind_eq_ok_iff, word, Word.chars_append, Word.chars_ofText]
  constructor
  · rintro ⟨body, hbody, htext⟩
    obtain ⟨haccepts, hchars⟩ := renderValue_eq_ok_iff.1 hbody
    refine ⟨haccepts, ?_⟩
    rw [← Except.ok.inj htext, String.toList_append, hchars]
  · rintro ⟨haccepts, htext⟩
    refine ⟨.ofList (Word.chars (rule.rendering.pieces value.toList)), ?_, ?_⟩
    · exact renderValue_eq_ok_iff.2 ⟨haccepts, String.toList_ofList⟩
    · refine congrArg Except.ok (String.toList_injective ?_)
      rw [String.toList_append, String.toList_ofList, htext]

end ArgumentRule

/-! ## Headers -/

namespace Target

open Template (Part)

/-- The words of a header with the fields of a record in them. -/
def headerWords (target : Target) (record : CallRecord) (scope : BusScope) : List String :=
  match target with
  | dbusSend => ["dbus-send", "--" ++ scope.name, "--dest=" ++ record.busName, "--print-reply",
      record.objectPath, record.interface ++ "." ++ record.method]
  | gdbus => ["gdbus", "call", "--" ++ scope.name, "--dest", record.busName, "--object-path",
      record.objectPath, "--method", record.interface ++ "." ++ record.method]

/-- The words of a header before anything is filled in. -/
def headerParts : Target → List (List Part)
  | dbusSend => [[.text "dbus-send".toList], [.text "--".toList, .slot "scope"],
      [.text "--dest=".toList, .slot "name"], [.text "--print-reply".toList], [.slot "path"],
      [.slot "interface", .text ".".toList, .slot "method"]]
  | gdbus => [[.text "gdbus".toList], [.text "call".toList], [.text "--".toList, .slot "scope"],
      [.text "--dest".toList], [.slot "name"], [.text "--object-path".toList], [.slot "path"],
      [.text "--method".toList], [.slot "interface", .text ".".toList, .slot "method"]]

/-- The header of a tool is written by its parts. -/
theorem header_eq_written (target : Target) :
    target.profile.header = .ofList (Template.written (Template.spaced target.headerParts)) := by
  cases target <;> decide

theorem isPlain_headerParts (target : Target) :
    ∀ part ∈ Template.spaced target.headerParts, part.IsPlain := by
  cases target <;> decide

def headerValues (record : CallRecord) (scope : BusScope) : List (String × String) :=
  [("scope", scope.name), ("name", record.busName), ("path", record.objectPath),
    ("interface", record.interface), ("method", record.method)]

theorem filled_headerParts (target : Target) (record : CallRecord) (scope : BusScope) :
    (target.headerParts.map fun word ↦ word.flatMap (Part.filled (headerValues record scope))) =
      (target.headerWords record scope).map String.toList := by
  have hlookup : (["scope", "name", "path", "interface", "method"].map fun slot ↦
      (headerValues record scope).lookup slot) = [some scope.name, some record.busName,
        some record.objectPath, some record.interface, some record.method] := by
    simp [headerValues, List.lookup_cons]
  simp only [List.map_cons, List.map_nil, List.cons.injEq, and_true] at hlookup
  cases target <;>
    simp only [headerParts, headerWords, List.map_cons, List.map_nil, List.flatMap_cons,
      List.flatMap_nil, Part.filled, hlookup, Option.map_some, Option.getD_some, List.append_nil,
      String.toList_append, List.append_assoc]

def headerCommand (target : Target) (record : CallRecord) (scope : BusScope) : List Word :=
  (target.headerWords record scope).map fun word ↦ Word.ofText word.toList

variable {record : CallRecord}

theorem isClear_of_isBare {cs : List Char} (h : ∀ c ∈ cs, isBare c = true) :
    Template.IsClear cs :=
  fun hmem ↦ absurd (h _ hmem) (by decide)

/-- With proper names no placeholder starts in a value. -/
theorem isClear_headerValues (h : record.IsNamed) (scope : BusScope) :
    ∀ entry ∈ headerValues record scope,
      Template.IsSlotName entry.1 ∧ Template.IsClear entry.2.toList := by
  have hscope : Template.IsClear scope.name.toList := by
    unfold Template.IsClear
    cases scope <;> decide
  simp only [headerValues, List.forall_mem_cons]
  exact ⟨⟨by decide, hscope⟩, ⟨by decide, isClear_of_isBare h.isBare_busName⟩,
    ⟨by decide, isClear_of_isBare h.isBare_objectPath⟩,
    ⟨by decide, isClear_of_isBare h.isBare_interface⟩,
    ⟨by decide, isClear_of_isBare h.isBare_method⟩, by simp⟩

/-- With proper names the chain of replacements yields the words of the header. -/
theorem fillHeader_append_space (target : Target) (h : record.IsNamed) (scope : BusScope) :
    (target.profile.fillHeader record scope).toList ++ [' '] =
      commandChars (target.headerCommand record scope) := by
  have hnonempty : target.headerParts ≠ [] := by cases target <;> simp [headerParts]
  have hfilled : (target.profile.fillHeader record scope).toList =
      (Template.spaced target.headerParts).flatMap (Part.filled (headerValues record scope)) := by
    rw [Profile.fillHeader, header_eq_written]
    exact Template.fill_written (isClear_headerValues h scope) (isPlain_headerParts target)
  calc
    _ = (target.headerParts.map fun word ↦
          word.flatMap (Part.filled (headerValues record scope))).flatMap (· ++ [' ']) := by
      rw [hfilled, Template.flatMap_spaced _ hnonempty, List.flatMap_map]
    _ = _ := by
      rw [filled_headerParts, List.flatMap_map, commandChars, headerCommand, List.flatMap_map]
      simp only [Word.chars_ofText]

/-- No word of a header brings syntax into a command. -/
theorem isInert_headerCommand (target : Target) (h : record.IsNamed) (scope : BusScope) :
    ∀ word ∈ target.headerCommand record scope, Word.IsInert word := by
  have hfixed {text : String} (htext : text.toList ≠ [] ∧ text.toList.all isBare = true) :
      Word.IsInert (Word.ofText text.toList) :=
    Word.isInert_ofText htext.1 (List.all_eq_true.1 htext.2)
  have hscope : Word.IsInert (Word.ofText ("--" ++ scope.name).toList) := by
    apply hfixed
    cases scope <;> decide
  have hpath : Word.IsInert (Word.ofText record.objectPath.toList) :=
    Word.isInert_ofText h.objectPath_ne_nil h.isBare_objectPath
  have hmember : Word.IsInert (Word.ofText (record.interface ++ "." ++ record.method).toList) := by
    have hdot : ∀ c ∈ ".".toList, isBare c = true := List.all_eq_true.1 (by decide)
    rw [String.toList_append, String.toList_append]
    apply Word.isInert_ofText (by simp)
    simp only [List.forall_mem_append]
    exact ⟨⟨h.isBare_interface, hdot⟩, h.isBare_method⟩
  have hname : Word.IsInert (Word.ofText record.busName.toList) :=
    Word.isInert_ofText h.busName_ne_nil h.isBare_busName
  have hdest : Word.IsInert (Word.ofText ("--dest=" ++ record.busName).toList) := by
    have hflag : ∀ c ∈ "--dest=".toList, isBare c = true := List.all_eq_true.1 (by decide)
    rw [String.toList_append]
    apply Word.isInert_ofText (by simp)
    simp only [List.forall_mem_append]
    exact ⟨hflag, h.isBare_busName⟩
  cases target with
  | dbusSend =>
    simp only [headerCommand, headerWords, List.map_cons, List.map_nil, List.forall_mem_cons]
    exact ⟨hfixed (by decide), hscope, hdest, hfixed (by decide), hpath, hmember, by simp⟩
  | gdbus =>
    simp only [headerCommand, headerWords, List.map_cons, List.map_nil, List.forall_mem_cons]
    exact ⟨hfixed (by decide), hfixed (by decide), hscope, hfixed (by decide), hname,
      hfixed (by decide), hpath, hfixed (by decide), hmember, by simp⟩

end Target

/-! ## Commands -/

namespace Profile

/-- The word that an argument is written as. -/
def Writes (profile : Profile) (argument : Argument) (word : Word) : Prop :=
  ∃ rule, profile.rule? argument.tag = some rule ∧
    rule.rendering.accepts argument.value.toList = true ∧ word = rule.word argument.value

variable {profile : Profile}

/-- An argument is rendered as the word that is written for it. -/
theorem renderArgument_eq_ok_iff {argument : Argument} {text : String} :
    profile.renderArgument argument = .ok text ↔
      ∃ word, profile.Writes argument word ∧ text.toList = Word.chars word := by
  unfold renderArgument Writes
  cases hrule : profile.rule? argument.tag with
  | none => simp
  | some rule =>
    simp only [ArgumentRule.render_eq_ok_iff, Option.some.injEq]
    constructor
    · rintro ⟨haccepts, htext⟩
      exact ⟨_, ⟨rule, rfl, haccepts, rfl⟩, htext⟩
    · rintro ⟨word, ⟨_, rfl, haccepts, rfl⟩, htext⟩
      exact ⟨haccepts, htext⟩

/-- A command is its header, a space, and the words of its arguments. -/
theorem exists_words_of_render {record : CallRecord} {scope : BusScope} {command : String}
    (h : profile.render record scope = .ok command) :
    ∃ words, List.Forall₂ profile.Writes record.arguments words ∧ command.toList =
      (profile.fillHeader record scope).toList ++ [' '] ++ commandChars words := by
  obtain ⟨texts, htexts, rfl⟩ := render_eq_ok_iff.1 h
  obtain ⟨words, hwords, hchars⟩ :=
    exists_forall₂_of_renderArgument (fun _ _ ↦ renderArgument_eq_ok_iff.1) htexts
  refine ⟨words, hwords, ?_⟩
  have hspaced : (texts.map fun text ↦ text ++ " ").flatMap String.toList = commandChars words := by
    calc
      _ = (texts.map String.toList).flatMap (· ++ [' ']) := by
        simp [List.flatMap_map]
      _ = _ := by
        rw [hchars, List.flatMap_map, commandChars]
  rw [commandText, String.toList_append, String.toList_append, String.toList_join, hspaced]
  rfl

/-- The labels of the rules hold no syntax. -/
theorem isBare_label {target : Target} {rule : ArgumentRule} (h : rule ∈ target.profile.rules) :
    ∀ c ∈ rule.label.toList, isBare c = true := by
  have hlabels : ∀ rule ∈ target.profile.rules, rule.label.toList.all isBare = true := by
    cases target <;> decide
  exact List.all_eq_true.1 (hlabels rule h)

/-- No word of an argument brings syntax into a command. -/
theorem isInert_of_writes {target : Target} {argument : Argument} {word : Word}
    (h : target.profile.Writes argument word) : Word.IsInert word := by
  obtain ⟨rule, hrule, haccepts, rfl⟩ := h
  have hlabel : ∀ c ∈ rule.label.toList, isBare c = true :=
    isBare_label (List.mem_of_find?_eq_some hrule)
  obtain ⟨hnonempty, hpieces⟩ := Rendering.isInert_pieces haccepts
  refine ⟨by simp [ArgumentRule.word, hnonempty], ?_⟩
  unfold ArgumentRule.word
  rw [List.forall_mem_append]
  refine ⟨fun piece hpiece ↦ ?_, hpieces⟩
  obtain ⟨c, hc, rfl⟩ := List.mem_map.1 hpiece
  exact hlabel c hc

end Profile

namespace Target

/-- The command of a record with proper names, word by word. -/
theorem exists_command_of_render {target : Target} {record : CallRecord} {scope : BusScope}
    {command : String} (hnamed : record.IsNamed)
    (h : target.profile.render record scope = .ok command) :
    ∃ words, List.Forall₂ target.profile.Writes record.arguments words ∧
      (∀ word ∈ target.headerCommand record scope ++ words, Word.IsInert word) ∧
      command.toList = commandChars (target.headerCommand record scope ++ words) := by
  obtain ⟨words, hwords, hcommand⟩ := Profile.exists_words_of_render h
  refine ⟨words, hwords, ?_, ?_⟩
  · have hinert : ∀ word ∈ words, Word.IsInert word :=
      ((List.forall₂_and_left words record.arguments).1
        (hwords.flip.imp fun _ _ hwrites ↦ ⟨Profile.isInert_of_writes hwrites, hwrites⟩)).1
    rw [List.forall_mem_append]
    exact ⟨target.isInert_headerCommand hnamed scope, hinert⟩
  · rw [hcommand, fillHeader_append_space target hnamed, commandChars, commandChars, commandChars,
      List.flatMap_append]

end Target

end BusReplay
