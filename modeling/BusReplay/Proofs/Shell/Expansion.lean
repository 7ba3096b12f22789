import BusReplay.Input.Stream
import BusReplay.Proofs.Profile.Words
import BusReplay.Proofs.Text.Encoding
import BusReplay.Proofs.Text.Hex

/-!
# What a shell makes of a word

A shell reads a word character by character. Outside quotes the characters of a plain word stand
for themselves; between double quotes all do, except that a pair of backquotes holds a pipeline and
stands for what it writes, without the newlines at the end. Other syntax is not told about here, nor
is a NUL byte that a pipeline writes.

A value in base sixteen meets the shell as a pipeline that writes its bytes. So the argument is the
bytes that were logged, as long as they do not end with a newline: a newline at the end is lost.
-/

namespace BusReplay.Shell

def encode (cs : List Char) : List UInt8 := cs.flatMap String.utf8EncodeChar

/-- Bytes without the newlines at their end. -/
def chomp (bytes : List UInt8) : List UInt8 := bytes.rdropWhile (· == newlineByte)

/-- The programs that a shell can run, and what a decoding pipeline relies on. -/
structure Programs where
  /-- What a program writes, given its words and its input, as far as it is known. -/
  run : List (List Char) → List UInt8 → Option (List UInt8)
  /-- `echo` writes its operands and a newline. Operands with syntax of their own are left out. -/
  run_echo : ∀ operands input, (∀ operand ∈ operands, ∀ c ∈ operand, c.isAlphanum = true) →
    run ("echo".toList :: operands) input =
      some (encode ([' '].intercalate operands) ++ [newlineByte])
  /-- `xxd -r -p` turns each pair of digits into a byte, and passes over a newline at the end. -/
  run_xxd : ∀ digits bytes, Text.unhex? digits = some bytes →
    run ["xxd".toList, "-r".toList, "-p".toList] (encode digits ++ [newlineByte]) = some bytes

inductive Mode
  | bare
  | quoted
  /-- Behind a backquote and part of a pipeline. -/
  | substituted (pipeline : List Char)

/-- Characters of a pipeline of plain words. -/
def isPipelineChar (c : Char) : Bool := isBare c || c == ' ' || c == '|'

def commandWords (cs : List Char) : List (List Char) := (Text.fields ' ' cs).filter (· ≠ [])

namespace Programs

variable (programs : Programs)

/-- What commands write that read from each other. -/
def pipe : List (List (List Char)) → List UInt8 → Option (List UInt8)
  | [], input => some input
  | [] :: _, _ => none
  | words :: commands, input => (programs.run words input).bind (pipe commands)

def substitute (pipeline : List Char) : Option (List UInt8) := do
  let output ← programs.pipe ((Text.fields '|' pipeline).map commandWords) []
  if 0 ∈ output then none else some (chomp output)

/-- The bytes that the rest of a word stands for. -/
def expand : Mode → List Char → Option (List UInt8)
  | .bare, [] => some []
  | .quoted, [] | .substituted _, [] => none
  | .bare, c :: cs =>
    if c = '"' then expand .quoted cs
    else if isBare c then (expand .bare cs).map (String.utf8EncodeChar c ++ ·)
    else none
  | .quoted, c :: cs =>
    if c = '"' then expand .bare cs
    else if c = '\x60' then expand (.substituted []) cs
    else if c = '$' ∨ c = '\\' then none
    else (expand .quoted cs).map (String.utf8EncodeChar c ++ ·)
  | .substituted pipeline, c :: cs =>
    if c = '\x60' then
      (programs.substitute pipeline).bind fun output ↦ (expand .quoted cs).map (output ++ ·)
    else if isPipelineChar c then expand (.substituted (pipeline ++ [c])) cs
    else none

def argument (word : String) : Option (List UInt8) := programs.expand .bare word.toList

/-! ## Piece by piece -/

variable {programs}

/-- A bare character stands for its own bytes. -/
theorem expand_bare {c : Char} (hc : isBare c = true) (rest : List Char) :
    programs.expand .bare ((Piece.bare c).chars ++ rest) =
      (programs.expand .bare rest).map (String.utf8EncodeChar c ++ ·) := by
  have hquote : c ≠ '"' := by
    rintro rfl
    exact absurd hc (by decide)
  rw [Piece.chars, List.singleton_append, expand, if_neg hquote, if_pos hc]

/-- A text outside quotes stands for itself. -/
theorem expand_ofText {cs : List Char} (hcs : ∀ c ∈ cs, isBare c = true) (rest : List Char) :
    programs.expand .bare (Word.chars (Word.ofText cs) ++ rest) =
      (programs.expand .bare rest).map (encode cs ++ ·) := by
  induction cs with
  | nil =>
    change programs.expand .bare rest = _
    simp [encode]
  | cons c cs ih =>
    rw [List.forall_mem_cons] at hcs
    have hchars : Word.chars (Word.ofText (c :: cs)) =
        (Piece.bare c).chars ++ Word.chars (Word.ofText cs) := rfl
    rw [hchars, List.append_assoc, expand_bare hcs.1, ih hcs.2, Option.map_map]
    simp [encode, Function.comp_def]

/-- A pipeline is read up to its closing backquote. -/
theorem expand_substituted {cs : List Char} (hcs : ∀ c ∈ cs, isPipelineChar c = true)
    (pipeline rest : List Char) :
    programs.expand (.substituted pipeline) (cs ++ '\x60' :: rest) =
      (programs.substitute (pipeline ++ cs)).bind fun output ↦
        (programs.expand .quoted rest).map (output ++ ·) := by
  -- What has been read of the pipeline grows from the empty text to all of it.
  induction cs generalizing pipeline with
  | nil => rw [List.nil_append, List.append_nil, expand, if_pos rfl]
  | cons c cs ih =>
    rw [List.forall_mem_cons] at hcs
    have hquote : c ≠ '\x60' := by
      rintro rfl
      exact absurd hcs.1 (by decide)
    rw [List.cons_append, expand, if_neg hquote, if_pos hcs.1, ih hcs.2, List.append_assoc,
      List.singleton_append]

theorem commandWords_append_space {before : List Char} (hbefore : ' ' ∉ before)
    (hne : before ≠ []) (after : List Char) :
    commandWords (before ++ ' ' :: after) = before :: commandWords after := by
  rw [commandWords, Text.fields_append_cons, Text.fields_of_notMem hbefore, List.singleton_append,
    List.filter_cons_of_pos (by simpa using hne), commandWords]

theorem pipe_cons {words : List (List Char)} (commands : List (List (List Char)))
    (hwords : words ≠ []) (input : List UInt8) :
    programs.pipe (words :: commands) input =
      (programs.run words input).bind (programs.pipe commands) := by
  rw [pipe]
  exact hwords

/-- The pipeline that decodes a text in base sixteen. -/
def decoder (hex : List Char) : List Char := "echo ".toList ++ (hex ++ " | xxd -r -p".toList)

/-- The decoder is two commands. An empty text is no operand. -/
theorem map_commandWords_decoder {hex : List Char} (hhex : ∀ c ∈ hex, isHexDigit c = true) :
    (Text.fields '|' (decoder hex)).map commandWords =
      ["echo".toList :: [hex].filter (· ≠ []), ["xxd".toList, "-r".toList, "-p".toList]] := by
  have habsent {c : Char} (hc : isHexDigit c = false) : c ∉ hex :=
    fun hmem ↦ absurd (hhex c hmem) (by simp [hc])
  have hsplit : decoder hex =
      ("echo".toList ++ ' ' :: (hex ++ [' '])) ++ '|' :: " xxd -r -p".toList := by
    have hfront : "echo ".toList = "echo".toList ++ [' '] := by decide
    have hback : " | xxd -r -p".toList = [' '] ++ '|' :: " xxd -r -p".toList := by decide
    rw [decoder, hfront, hback]
    simp only [List.append_assoc, List.cons_append, List.nil_append]
  have hecho : commandWords ("echo".toList ++ ' ' :: (hex ++ [' '])) =
      "echo".toList :: [hex].filter (· ≠ []) := by
    rw [commandWords_append_space (by decide) (by decide), commandWords, Text.fields_append_cons,
      Text.fields_of_notMem (habsent (by decide)), List.singleton_append]
    simp [Text.fields, List.filter_cons]
  have hbar : '|' ∉ "echo".toList ++ ' ' :: (hex ++ [' ']) := by
    simp [habsent (c := '|') (by decide)]
  have hxxd : commandWords " xxd -r -p".toList = ["xxd".toList, "-r".toList, "-p".toList] := by
    decide
  rw [hsplit, Text.fields_append_cons, Text.fields_of_notMem hbar,
    Text.fields_of_notMem (by decide : '|' ∉ " xxd -r -p".toList), List.map_append, List.map_cons,
    List.map_nil, hecho, List.map_cons, List.map_nil, hxxd, List.singleton_append]

/-- The pipeline in a word decodes its digits, and the shell drops the newlines at the end. -/
theorem substitute_decoder {hex : List Char} {bytes : List UInt8}
    (hhex : Text.unhex? hex = some bytes) (hnul : 0 ∉ bytes) :
    programs.substitute (decoder hex) = some (chomp bytes) := by
  have hdigits := Text.isHexDigit_of_unhex?_eq_some hhex
  have hoperands : ∀ operand ∈ [hex].filter (· ≠ []), ∀ c ∈ operand, c.isAlphanum = true := by
    intro operand hoperand c hc
    obtain rfl := List.mem_singleton.1 (List.mem_filter.1 hoperand).1
    exact isAlphanum_of_isHexDigit (hdigits c hc)
  have hjoined : [' '].intercalate ([hex].filter (· ≠ [])) = hex := by
    cases hex <;> simp
  have hoperand := programs.run_echo _ [] hoperands
  rw [hjoined] at hoperand
  rw [substitute, map_commandWords_decoder hdigits, pipe_cons _ (List.cons_ne_nil _ _), hoperand,
    Option.bind_some, pipe_cons _ (List.cons_ne_nil _ _), programs.run_xxd hex bytes hhex,
    Option.bind_some, pipe]
  exact if_neg hnul

theorem expand_decoded {hex : List Char} {bytes : List UInt8}
    (hhex : Text.unhex? hex = some bytes) (hnul : 0 ∉ bytes) (rest : List Char) :
    programs.expand .bare ((Piece.decoded hex).chars ++ rest) =
      (programs.expand .bare rest).map (chomp bytes ++ ·) := by
  have hchars : (Piece.decoded hex).chars ++ rest =
      '"' :: '\x60' :: (decoder hex ++ '\x60' :: '"' :: rest) := by
    have hopening : opening = '"' :: '\x60' :: "echo ".toList := by decide
    have hclosing : closing = " | xxd -r -p".toList ++ ['\x60', '"'] := by decide
    rw [Piece.chars, decoder, hopening, hclosing]
    simp only [List.cons_append, List.append_assoc, List.nil_append]
  have hdecoder : ∀ c ∈ decoder hex, isPipelineChar c = true := by
    have hfixed : ∀ c ∈ "echo ".toList ++ " | xxd -r -p".toList, isPipelineChar c = true :=
      List.all_eq_true.1 (by decide)
    intro c hc
    rcases List.mem_append.1 hc with hc | hc
    · exact hfixed c (List.mem_append_left _ hc)
    · rcases List.mem_append.1 hc with hc | hc
      · have hbare := isBare_of_isHexDigit (Text.isHexDigit_of_unhex?_eq_some hhex c hc)
        rw [isPipelineChar, hbare, Bool.true_or, Bool.true_or]
      · exact hfixed c (List.mem_append_right _ hc)
  rw [hchars, expand, if_pos rfl, expand, if_neg (by decide), if_pos rfl,
    expand_substituted hdecoder, List.nil_append, substitute_decoder hhex hnul, Option.bind_some,
    expand, if_pos rfl]

/-! ## The two programs -/

/-- A digit is one byte with the number of the digit. -/
theorem exists_utf8EncodeChar_eq {c : Char} (h : isHexDigit c = true) :
    ∃ b, String.utf8EncodeChar c = [b] ∧ b ≠ newlineByte ∧ Char.ofNat b.toNat = c := by
  have hrange : 48 ≤ c.toNat ∧ c.toNat < 128 := by
    simp only [isHexDigit, Char.isDigit, Bool.or_eq_true, Bool.and_eq_true, decide_eq_true_eq,
      Char.le_def, UInt32.le_iff_toNat_le] at h
    have hval : c.toNat = c.val.toNat := rfl
    rw [hval]
    rcases h with (⟨hlow, hhigh⟩ | ⟨hlow, hhigh⟩) | ⟨hlow, hhigh⟩
    · exact ⟨hlow, lt_of_le_of_lt hhigh (by decide)⟩
    · exact ⟨le_trans (by decide) hlow, lt_of_le_of_lt hhigh (by decide)⟩
    · exact ⟨le_trans (by decide) hlow, lt_of_le_of_lt hhigh (by decide)⟩
  have hnumber : (UInt8.ofNat c.toNat).toNat = c.toNat := by
    rw [UInt8.toNat_ofNat']
    omega
  have hchar : Char.ofNat (UInt8.ofNat c.toNat).toNat = c := by rw [hnumber, Char.ofNat_toNat]
  have hsmall : UInt8.ofNat c.toNat < 0x80 := by
    rw [UInt8.lt_iff_toNat_lt, hnumber]
    exact hrange.2
  refine ⟨.ofNat c.toNat, ?_, fun heq ↦ ?_, hchar⟩
  · rw [← Text.Utf8.utf8EncodeChar_of_lt hsmall, hchar]
  · have hten : c.toNat = 10 := by rw [← hnumber, heq]; rfl
    omega

/-- Digits are read back from their bytes and a newline behind them. -/
theorem map_ofNat_encode {digits : List Char} (h : ∀ c ∈ digits, isHexDigit c = true) :
    ((encode digits ++ [newlineByte]).filter (· ≠ newlineByte)).map (fun b ↦ Char.ofNat b.toNat) =
      digits := by
  induction digits with
  | nil => rfl
  | cons c digits ih =>
    rw [List.forall_mem_cons] at h
    obtain ⟨b, hencode, hnewline, hchar⟩ := exists_utf8EncodeChar_eq h.1
    have hcons : encode (c :: digits) = b :: encode digits := by
      rw [encode, List.flatMap_cons, hencode, List.singleton_append, encode]
    rw [hcons, List.cons_append, List.filter_cons_of_pos (by simpa using hnewline), List.map_cons,
      hchar, ih h.2]

/-- `echo` and `xxd -r -p`, and nothing else. -/
def standard : Programs where
  run words input :=
    if words.head? = some "echo".toList then
      some (encode ([' '].intercalate words.tail) ++ [newlineByte])
    else if words = ["xxd".toList, "-r".toList, "-p".toList] then
      Text.unhex? ((input.filter (· ≠ newlineByte)).map fun b ↦ Char.ofNat b.toNat)
    else none
  run_echo operands input _ := by simp
  run_xxd digits bytes h := by
    rw [if_neg (by decide), if_pos rfl, map_ofNat_encode (Text.isHexDigit_of_unhex?_eq_some h), h]

/-! ## Arguments -/

/-- Nothing is dropped unless the bytes end in a newline. -/
theorem chomp_eq_self_iff {bytes : List UInt8} :
    chomp bytes = bytes ↔ bytes.getLast? ≠ some newlineByte := by
  rw [chomp, List.rdropWhile_eq_self_iff]
  by_cases hne : bytes = []
  · simp [hne]
  · rw [List.getLast?_eq_getLast_of_ne_nil hne]
    simp [hne]

/-- A text in base sixteen reaches the tool as the label of its rule and the bytes of the text,
without the newlines at their end. These are the logged bytes unless the last of them is a
newline. -/
theorem argument_render (programs : Programs) {target : Target} {rule : ArgumentRule}
    {value : String} {bytes : List UInt8} (hrule : rule ∈ target.profile.rules)
    (hrendering : rule.rendering = .hexDecoded) (hvalue : Text.unhex? value.toList = some bytes)
    (hnul : 0 ∉ bytes) :
    ∃ text, rule.render value = .ok text ∧
      programs.argument text = some (encode rule.label.toList ++ chomp bytes) ∧
      (programs.argument text = some (encode rule.label.toList ++ bytes) ↔
        bytes.getLast? ≠ some newlineByte) := by
  have hdigits : value.toList.all isHexDigit = true :=
    List.all_eq_true.2 (Text.isHexDigit_of_unhex?_eq_some hvalue)
  have hword : rule.word value = Word.ofText rule.label.toList ++ [.decoded value.toList] := by
    rw [ArgumentRule.word, hrendering, Rendering.pieces]
  let text : String := .ofList (Word.chars (rule.word value))
  have htext : text.toList = Word.chars (rule.word value) := String.toList_ofList
  have hrender : rule.render value = .ok text :=
    ArgumentRule.render_eq_ok_iff.2 ⟨by rw [hrendering]; exact hdigits, htext⟩
  have hargument : programs.argument text = some (encode rule.label.toList ++ chomp bytes) := by
    have hpieces : Word.chars [.decoded value.toList] = (Piece.decoded value.toList).chars ++ [] :=
      rfl
    rw [argument, htext, hword, Word.chars_append, expand_ofText (Profile.isBare_label hrule),
      hpieces, expand_decoded hvalue hnul, expand, Option.map_some, Option.map_some,
      List.append_nil]
  refine ⟨text, hrender, hargument, ?_⟩
  rw [hargument, Option.some.injEq, List.append_cancel_left_eq, chomp_eq_self_iff]

/-- A substitution, and two newlines that are lost. -/
theorem argument_render_newlines :
    ∃ text, ArgumentRule.render ⟨'s', some "string", .hexDecoded⟩ "24286c73290A0a" = .ok text ∧
      standard.argument text = some (encode "string:".toList ++ chomp (encode "$(ls)\n\n".toList)) ∧
      chomp (encode "$(ls)\n\n".toList) = encode "$(ls)".toList ∧
      standard.argument text ≠ some (encode "string:".toList ++ encode "$(ls)\n\n".toList) := by
  obtain ⟨text, hrender, hargument, hexact⟩ :=
    @argument_render standard .dbusSend ⟨'s', some "string", .hexDecoded⟩ "24286c73290A0a"
      (encode "$(ls)\n\n".toList) (by decide) rfl (by decide +kernel) (by decide +kernel)
  have hlast : (encode "$(ls)\n\n".toList).getLast? = some newlineByte := by decide +kernel
  exact ⟨text, hrender, hargument, by decide +kernel, fun h ↦ hexact.1 h hlast⟩

/-- A newline at the end of the logged bytes does not come back. -/
theorem not_forall_argument_render :
    ¬ ∀ (programs : Programs) (target : Target) (rule : ArgumentRule) (value : String)
      (bytes : List UInt8), rule ∈ target.profile.rules → rule.rendering = .hexDecoded →
      Text.unhex? value.toList = some bytes → bytes ≠ [] → 0 ∉ bytes →
      ∃ text, rule.render value = .ok text ∧
        programs.argument text = some (encode rule.label.toList ++ bytes) := by
  intro h
  obtain ⟨text, hrender, hargument⟩ := h standard .dbusSend ⟨'s', some "string", .hexDecoded⟩ "610a"
    [97, 10] (by decide) rfl (by decide +kernel) (by decide) (by decide)
  have htext : ArgumentRule.render ⟨'s', some "string", .hexDecoded⟩ "610a" =
      .ok "string:\"\x60echo 610a | xxd -r -p\x60\"" := by decide +kernel
  obtain rfl := Except.ok.inj (htext.symm.trans hrender)
  exact absurd hargument (by decide +kernel)

end Programs

end BusReplay.Shell
