import BusReplay.Proofs.Shell.Word

/-!
# Searching a command for its payloads

The encoded texts of a command can be found without reading its words: they stand between two
markers, and the search for the next one goes on at the second marker. In a command of inert words
this search finds each quoted piece once and nothing else. No piece but a quoted one holds a
backquote, and the backquote that ends a quoted piece is followed by a quote.
-/

namespace BusReplay.Shell

/-- A text up to the first occurrence of a marker, and what starts there. -/
def cutAt? (marker : List Char) : List Char → Option (List Char × List Char)
  | [] => none
  | c :: cs =>
    if marker.isPrefixOf (c :: cs) then some ([], c :: cs)
    else (cutAt? marker cs).map fun cut ↦ (c :: cut.1, cut.2)

def payloadStart : List Char := "`echo ".toList

def payloadEnd : List Char := " | xxd -r -p`".toList

section cutAt

variable {marker cs front found : List Char}

theorem of_cutAt?_eq_some (h : cutAt? marker cs = some (front, found)) :
    cs = front ++ found ∧ marker <+: found := by
  induction cs generalizing front with
  | nil => cases h
  | cons c cs ih =>
    unfold cutAt? at h
    split at h
    · next hmarker =>
      obtain ⟨rfl, rfl⟩ := Prod.mk.inj (Option.some.inj h)
      exact ⟨rfl, List.isPrefixOf_iff_prefix.1 hmarker⟩
    · obtain ⟨cut, hcut, heq⟩ := Option.map_eq_some_iff.1 h
      obtain ⟨rfl, rfl⟩ := Prod.mk.inj heq
      obtain ⟨hcs, hmarker⟩ := ih hcut
      exact ⟨congrArg (c :: ·) hcs, hmarker⟩

/-- Nothing is found where the marker does not start. -/
theorem cutAt?_cons (c : Char) (h : ¬ marker <+: c :: cs) :
    cutAt? marker (c :: cs) = (cutAt? marker cs).map fun cut ↦ (c :: cut.1, cut.2) := by
  rw [cutAt?, if_neg (by rwa [List.isPrefixOf_iff_prefix])]

theorem cutAt?_of_prefix (hne : marker ≠ []) (h : marker <+: cs) :
    cutAt? marker cs = some ([], cs) := by
  cases cs with
  | nil => exact absurd (List.prefix_nil.1 h) hne
  | cons c cs => rw [cutAt?, if_pos (List.isPrefixOf_iff_prefix.2 h)]

/-- A marker is found behind a text that does not hold its first character. -/
theorem cutAt?_append {first : Char} {others : List Char} (hfront : first ∉ front) :
    cutAt? (first :: others) (front ++ (first :: others ++ cs)) =
      some (front, first :: others ++ cs) := by
  induction front with
  | nil => exact cutAt?_of_prefix (by simp) (List.prefix_append _ _)
  | cons c front ih =>
    rw [List.mem_cons, not_or] at hfront
    have hmarker : ¬ first :: others <+: c :: (front ++ (first :: others ++ cs)) := by
      intro h
      exact hfront.1 (List.cons_prefix_cons.1 h).1
    rw [List.cons_append, cutAt?_cons c hmarker, ih hfront.2, Option.map_some]

/-- Behind a marker and the marker that ends it, less text is left. -/
theorem length_lt_of_cutAt? {other payload rest : List Char}
    (hstart : cutAt? marker cs = some (front, found))
    (hend : cutAt? other (found.drop marker.length) = some (payload, rest)) (hne : marker ≠ []) :
    rest.length < cs.length := by
  obtain ⟨hcs, behind, hfound⟩ := of_cutAt?_eq_some hstart
  obtain ⟨hdrop, -⟩ := of_cutAt?_eq_some hend
  have hmarker : 0 < marker.length := List.length_pos_iff.2 hne
  have hbehind : found.length = marker.length + behind.length := by
    rw [← hfound, List.length_append]
  have hrest : found.length - marker.length = payload.length + rest.length := by
    rw [← List.length_drop, hdrop, List.length_append]
  rw [hcs, List.length_append]
  omega

end cutAt

/-- The payloads of a text in order, or nothing if one of them is not ended. -/
def payloads? (text : List Char) : Option (List (List Char)) :=
  match hstart : cutAt? payloadStart text with
  | none => some []
  | some (_, found) =>
    match hend : cutAt? payloadEnd (found.drop payloadStart.length) with
    | none => none
    | some (payload, rest) =>
      have : rest.length < text.length := length_lt_of_cutAt? hstart hend (by decide)
      (payloads? rest).map (payload :: ·)
termination_by text.length

section payloads

variable {text front found payload rest hex : List Char}

theorem payloads?_of_none (h : cutAt? payloadStart text = none) : payloads? text = some [] := by
  unfold payloads?
  split
  · rfl
  · next hstart => rw [h] at hstart; cases hstart

theorem payloads?_of_some (hstart : cutAt? payloadStart text = some (front, found)) :
    payloads? text =
      (cutAt? payloadEnd (found.drop payloadStart.length)).bind fun cut ↦
        (payloads? cut.2).map (cut.1 :: ·) := by
  rw [payloads?]
  split
  · next hnone => rw [hnone] at hstart; cases hstart
  · next other hsome =>
    rw [hsome] at hstart
    obtain ⟨-, rfl⟩ := Prod.mk.inj (Option.some.inj hstart)
    split
    · next hend => rw [hend, Option.bind_none]
    · next hend =>
      dsimp only
      rw [hend, Option.bind_some]

/-- A character at which no payload starts is passed over. -/
theorem payloads?_cons (c : Char) (h : ¬ payloadStart <+: c :: text) :
    payloads? (c :: text) = payloads? text := by
  have hcut := cutAt?_cons c h
  cases hrest : cutAt? payloadStart text with
  | none =>
    rw [hrest, Option.map_none] at hcut
    rw [payloads?_of_none hcut, payloads?_of_none hrest]
  | some cut =>
    rw [hrest, Option.map_some] at hcut
    rw [payloads?_of_some hcut, payloads?_of_some hrest]

theorem payloadStart_append (rest : List Char) :
    payloadStart ++ rest = '\x60' :: ("echo ".toList ++ rest) := by
  have hstart : payloadStart = '\x60' :: "echo ".toList := by decide
  rw [hstart, List.cons_append]

theorem not_payloadStart_prefix_cons {c : Char} (h : '\x60' ≠ c) (text : List Char) :
    ¬ payloadStart <+: c :: text := by
  intro ⟨rest, hrest⟩
  rw [payloadStart_append] at hrest
  exact h (List.cons.inj hrest).1

theorem payloads?_append_of_notMem (hfront : '\x60' ∉ front) (text : List Char) :
    payloads? (front ++ text) = payloads? text := by
  induction front with
  | nil => rfl
  | cons c front ih =>
    rw [List.mem_cons, not_or] at hfront
    rw [List.cons_append, payloads?_cons c (not_payloadStart_prefix_cons hfront.1 _), ih hfront.2]

/-- Between the markers a payload is taken as it is. -/
theorem payloads?_append_markers (hspace : ' ' ∉ hex) (rest : List Char) :
    payloads? (payloadStart ++ (hex ++ (payloadEnd ++ rest))) =
      (payloads? (payloadEnd ++ rest)).map (hex :: ·) := by
  have hstart : cutAt? payloadStart (payloadStart ++ (hex ++ (payloadEnd ++ rest))) =
      some ([], payloadStart ++ (hex ++ (payloadEnd ++ rest))) :=
    cutAt?_of_prefix (by decide) (List.prefix_append _ _)
  have hend : cutAt? payloadEnd (hex ++ (payloadEnd ++ rest)) = some (hex, payloadEnd ++ rest) :=
    cutAt?_append hspace
  rw [payloads?_of_some hstart, List.drop_left, hend, Option.bind_some]

end payloads

/-! ## Commands of inert words -/

theorem opening_eq : opening = '"' :: payloadStart := by decide

theorem closing_eq : closing = payloadEnd ++ ['"'] := by decide

/-- The marker behind a payload ends with a backquote, and has no other. -/
theorem exists_payloadEnd_eq : ∃ front, payloadEnd = front ++ ['\x60'] ∧ '\x60' ∉ front :=
  ⟨payloadEnd.dropLast, by decide, by decide⟩

/-- A backquote in front of a quote starts no payload. -/
theorem not_prefix_closing_quote (text : List Char) : ¬ payloadStart <+: '\x60' :: '"' :: text := by
  have hecho : "echo ".toList = 'e' :: "cho ".toList := by decide
  intro ⟨rest, hrest⟩
  rw [payloadStart_append, hecho] at hrest
  exact absurd (List.cons.inj (List.cons.inj hrest).2).1 (by decide)

namespace Piece

/-- The text that a piece has the shell decode. -/
def hex? : Piece → Option (List Char)
  | bare _ => none
  | decoded hex => some hex

variable {piece : Piece} {c : Char} {hex : List Char}

theorem notMem_ofText (h : piece.hex? ≠ none) (cs : List Char) : piece ∉ Word.ofText cs := by
  intro hmem
  obtain ⟨c, -, rfl⟩ := List.mem_map.1 hmem
  exact h rfl

theorem IsInert.ne_backquote (h : (bare c).IsInert) : c ≠ '\x60' := by
  intro hc
  rw [IsInert, hc] at h
  exact absurd h (by decide)

theorem IsInert.notMem (h : (decoded hex).IsInert) (hc : isHexDigit c = false) : c ∉ hex := by
  intro hmem
  rw [h c hmem] at hc
  cases hc

/-- A piece adds its own payload, if it has one. -/
theorem payloads?_chars_append (h : piece.IsInert) (text : List Char) :
    payloads? (piece.chars ++ text) = (payloads? text).map (piece.hex?.toList ++ ·) := by
  cases piece with
  | bare c =>
    have hc : '\x60' ∉ [c] := by simpa using h.ne_backquote.symm
    rw [chars, payloads?_append_of_notMem hc]
    simp [hex?]
  | decoded hex =>
    obtain ⟨front, hfront, hbackquote⟩ := exists_payloadEnd_eq
    have hbehind : payloads? (payloadEnd ++ '"' :: text) = payloads? text := by
      rw [hfront, List.append_assoc, payloads?_append_of_notMem hbackquote]
      calc
        _ = payloads? (['"'] ++ text) := payloads?_cons _ (not_prefix_closing_quote text)
        _ = payloads? text := payloads?_append_of_notMem (by decide) text
    calc
      _ = payloads? (['"'] ++ (payloadStart ++ (hex ++ (payloadEnd ++ '"' :: text)))) := by
        simp [chars, opening_eq, closing_eq]
      _ = payloads? (payloadStart ++ (hex ++ (payloadEnd ++ '"' :: text))) :=
        payloads?_append_of_notMem (by decide) _
      _ = (payloads? text).map (hex :: ·) := by
        rw [payloads?_append_markers (h.notMem (by decide)), hbehind]

end Piece

/-- The texts that a word has the shell decode. -/
def Word.hexes (word : Word) : List (List Char) := word.filterMap Piece.hex?

theorem Word.payloads?_chars_append {word : Word} (h : ∀ piece ∈ word, piece.IsInert)
    (text : List Char) :
    payloads? (Word.chars word ++ text) = (payloads? text).map (Word.hexes word ++ ·) := by
  induction word with
  | nil => simp [chars, hexes]
  | cons piece word ih =>
    rw [List.forall_mem_cons] at h
    have hhexes : hexes (piece :: word) = piece.hex?.toList ++ hexes word := by
      cases piece <;> rfl
    rw [chars, List.flatMap_cons, List.append_assoc, Piece.payloads?_chars_append h.1, hhexes]
    rw [← chars, ih h.2, Option.map_map]
    congr 1
    funext payloads
    exact (List.append_assoc _ _ _).symm

theorem Word.hexes_append (xs ys : Word) : hexes (xs ++ ys) = hexes xs ++ hexes ys :=
  List.filterMap_append

theorem Word.hexes_ofText (cs : List Char) : hexes (ofText cs) = [] := by
  rw [hexes, ofText, List.filterMap_map, List.filterMap_eq_nil_iff]
  intro c _
  rfl

/-- The search finds the quoted pieces of a command and nothing else. -/
theorem payloads?_commandChars {words : List Word} (h : ∀ word ∈ words, Word.IsInert word) :
    payloads? (commandChars words) = some (words.flatMap Word.hexes) := by
  induction words with
  | nil => exact payloads?_of_none rfl
  | cons word words ih =>
    rw [List.forall_mem_cons] at h
    have hspace : payloads? ([' '] ++ commandChars words) = payloads? (commandChars words) :=
      payloads?_append_of_notMem (by decide) _
    rw [commandChars, List.flatMap_cons, List.append_assoc, Word.payloads?_chars_append h.1.2]
    rw [← commandChars, hspace, ih h.2, Option.map_some, List.flatMap_cons]

/-! ## Where payloads start -/

variable {text front back : List Char}

/-- A payload that does not start in a text without backquotes starts behind it. -/
theorem exists_front_of_append {clear rest : List Char} (hclear : '\x60' ∉ clear)
    (h : clear ++ rest = front ++ (payloadStart ++ back)) :
    ∃ between, front = clear ++ between ∧ rest = between ++ (payloadStart ++ back) := by
  rw [payloadStart_append] at h ⊢
  exact Text.exists_of_append_eq_append_cons hclear h

/-- A payload that starts behind the start of another one starts behind the end of the other. -/
theorem exists_front_of_payload {hex : List Char} (hhex : '\x60' ∉ hex)
    (h : hex ++ (payloadEnd ++ '"' :: text) = front ++ (payloadStart ++ back)) :
    ∃ between, front = hex ++ (payloadEnd ++ '"' :: between) ∧
      text = between ++ (payloadStart ++ back) := by
  obtain ⟨bar, hend, hbar⟩ := exists_payloadEnd_eq
  have hclear : '\x60' ∉ hex ++ bar := by simp [hhex, hbar]
  have hcut : (hex ++ bar) ++ '\x60' :: '"' :: text = front ++ (payloadStart ++ back) := by
    rw [← h, hend]
    simp
  obtain ⟨others, hfront, hothers⟩ := exists_front_of_append hclear hcut
  cases others with
  | nil =>
    -- The backquote that ends the payload cannot start another one.
    have hprefix : payloadStart <+: '\x60' :: '"' :: text :=
      hothers ▸ List.prefix_append payloadStart back
    exact absurd hprefix (not_prefix_closing_quote text)
  | cons c others =>
    obtain ⟨hc, hrest⟩ := List.cons.inj hothers
    have hquote : '\x60' ∉ ['"'] := by decide
    obtain ⟨between, hbetween, htext⟩ := exists_front_of_append hquote hrest
    refine ⟨between, ?_, htext⟩
    rw [hfront, hbetween, ← hc, hend]
    simp

/-- A payload starts behind a piece, or directly behind the quote that opens the piece. -/
theorem Piece.start_of_chars_append {piece : Piece} (hpiece : piece.IsInert)
    (h : piece.chars ++ text = front ++ (payloadStart ++ back)) :
    (∃ between, front = piece.chars ++ between ∧ text = between ++ (payloadStart ++ back)) ∨
      piece.hex? ≠ none ∧ front = ['"'] := by
  cases piece with
  | bare c =>
    have hc : '\x60' ∉ [c] := by simpa using hpiece.ne_backquote.symm
    exact .inl (exists_front_of_append hc h)
  | decoded hex =>
    have hchars (rest : List Char) : (decoded hex).chars ++ rest =
        ['"'] ++ (payloadStart ++ (hex ++ (payloadEnd ++ '"' :: rest))) := by
      simp [chars, opening_eq, closing_eq]
    rw [hchars] at h
    obtain ⟨others, hfront, hrest⟩ := exists_front_of_append (by decide) h
    cases others with
    | nil => exact .inr ⟨by simp [hex?], hfront⟩
    | cons c others =>
      have hecho : '\x60' ∉ "echo ".toList := by decide
      rw [payloadStart_append] at hrest
      obtain ⟨hc, hrest⟩ := List.cons.inj hrest
      obtain ⟨behind, hbehind, hhex⟩ := exists_front_of_append hecho hrest
      obtain ⟨between, hbetween, htext⟩ :=
        exists_front_of_payload (hpiece.notMem (by decide)) hhex
      refine .inl ⟨between, ?_, htext⟩
      rw [hchars, hfront, hbehind, hbetween, ← hc, payloadStart_append]

/-- A payload starts behind a word, or in a quoted piece of the word. -/
theorem Word.start_of_chars_append {word : Word} (hword : ∀ piece ∈ word, piece.IsInert)
    (h : Word.chars word ++ text = front ++ (payloadStart ++ back)) :
    (∃ between, front = Word.chars word ++ between ∧ text = between ++ (payloadStart ++ back)) ∨
      ∃ before piece after, word = before ++ piece :: after ∧ piece.hex? ≠ none ∧
        front = Word.chars before ++ ['"'] := by
  induction word generalizing front with
  | nil => exact .inl ⟨front, rfl, h⟩
  | cons piece word ih =>
    rw [List.forall_mem_cons] at hword
    have hcons (rest : Word) : chars (piece :: rest) = piece.chars ++ chars rest :=
      List.flatMap_cons
    rw [hcons, List.append_assoc] at h
    rcases Piece.start_of_chars_append hword.1 h with ⟨others, hothers, hrest⟩ | ⟨hhex, hfront⟩
    · rcases ih hword.2 hrest with
        ⟨between, hbetween, htext⟩ | ⟨before, found, after, hcut, hhex, hq⟩
      · refine .inl ⟨between, ?_, htext⟩
        rw [hothers, hbetween, hcons, List.append_assoc]
      · refine .inr ⟨piece :: before, found, after, congrArg (piece :: ·) hcut, hhex, ?_⟩
        rw [hothers, hq, hcons, List.append_assoc]
    · exact .inr ⟨[], piece, word, rfl, hhex, hfront⟩

/-- Every payload of a command starts in a quoted piece of one of its words. -/
theorem exists_word_of_commandChars {words : List Word} (hwords : ∀ word ∈ words, Word.IsInert word)
    (h : commandChars words = front ++ (payloadStart ++ back)) :
    ∃ earlier before piece after later, words = earlier ++ (before ++ piece :: after) :: later ∧
      piece.hex? ≠ none ∧ front = commandChars earlier ++ (Word.chars before ++ ['"']) := by
  induction words generalizing front with
  | nil =>
    have hstart : payloadStart ≠ [] := by decide
    simp [commandChars, hstart] at h
  | cons word words ih =>
    rw [List.forall_mem_cons] at hwords
    have hcons (rest : List Word) :
        commandChars (word :: rest) = Word.chars word ++ ([' '] ++ commandChars rest) := by
      rw [commandChars, List.flatMap_cons, List.append_assoc]
      rfl
    rw [hcons] at h
    rcases Word.start_of_chars_append hwords.1.2 h with
      ⟨others, hothers, hrest⟩ | ⟨before, piece, after, hcut, hhex, hfront⟩
    · obtain ⟨between, hbetween, hbehind⟩ := exists_front_of_append (by decide) hrest
      obtain ⟨earlier, before, piece, after, later, hcut, hhex, hfront⟩ := ih hwords.2 hbehind
      refine ⟨word :: earlier, before, piece, after, later, congrArg (word :: ·) hcut, hhex, ?_⟩
      rw [hothers, hbetween, hfront, hcons, List.append_assoc, List.append_assoc]
    · exact ⟨[], before, piece, after, words, by rw [hcut, List.nil_append], hhex, hfront⟩

end BusReplay.Shell
