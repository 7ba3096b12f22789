import BusReplay.Profile.Rule
import BusReplay.Proofs.Text.Fields

/-!
# Words without shell syntax

A word of a command is a sequence of pieces: characters that a shell reads as themselves, and
texts in base sixteen that it decodes between double quotes. A command of such words can be read
in one way only, although the quoted pieces hold spaces of their own, and no character of it ends
a line.
-/

namespace BusReplay.Shell

/-- Characters that stand for themselves outside quotes. -/
def isBare (c : Char) : Bool := c.isAlphanum || ['_', '.', ':', '/', '=', '+', '-'].contains c

inductive Piece
  /-- A character outside quotes. -/
  | bare (c : Char)
  /-- A quoted substitution that decodes a text in base sixteen. -/
  | decoded (hex : List Char)
  deriving DecidableEq, Repr

/-- What stands in front of a text that is to be decoded. -/
def opening : List Char := "\"`echo ".toList

/-- What stands behind it. -/
def closing : List Char := " | xxd -r -p`\"".toList

namespace Piece

def chars : Piece → List Char
  | bare c => [c]
  | decoded hex => opening ++ (hex ++ closing)

/-- A piece that brings no syntax into a command. -/
def IsInert : Piece → Prop
  | bare c => isBare c = true
  | decoded hex => ∀ c ∈ hex, isHexDigit c = true

end Piece

abbrev Word := List Piece

namespace Word

def chars (word : Word) : List Char := word.flatMap Piece.chars

/-- A word of inert pieces, with at least one of them. -/
def IsInert (word : Word) : Prop := word ≠ [] ∧ ∀ piece ∈ word, piece.IsInert

def ofText (cs : List Char) : Word := cs.map Piece.bare

end Word

/-- A command: its words, each of them followed by one space. -/
def commandChars (words : List Word) : List Char :=
  words.flatMap fun word ↦ Word.chars word ++ [' ']

/-! ## Characters of a command -/

theorem isAlphanum_of_isHexDigit {c : Char} (h : isHexDigit c = true) : c.isAlphanum = true := by
  simp only [isHexDigit, Bool.or_eq_true, Bool.and_eq_true, decide_eq_true_eq] at h
  rcases h with (hdigit | ⟨hlow, hhigh⟩) | ⟨hlow, hhigh⟩
  · rw [Char.isAlphanum, hdigit, Bool.or_true]
  · have hletter : c ≤ 'z' := Char.le_trans hhigh (by decide)
    have hlower : c.isLower = true :=
      Bool.and_eq_true_iff.2 ⟨decide_eq_true hlow, decide_eq_true hletter⟩
    have halpha : c.isAlpha = true := Bool.or_eq_true_iff.2 (.inr hlower)
    rw [Char.isAlphanum, halpha, Bool.true_or]
  · have hletter : c ≤ 'Z' := Char.le_trans hhigh (by decide)
    have hupper : c.isUpper = true := decide_eq_true ⟨hlow, hletter⟩
    have halpha : c.isAlpha = true := Bool.or_eq_true_iff.2 (.inl hupper)
    rw [Char.isAlphanum, halpha, Bool.true_or]

theorem isBare_of_isHexDigit {c : Char} (h : isHexDigit c = true) : isBare c = true := by
  rw [isBare, isAlphanum_of_isHexDigit h, Bool.true_or]

theorem Word.chars_append (xs ys : Word) : Word.chars (xs ++ ys) = Word.chars xs ++ Word.chars ys :=
  List.flatMap_append

theorem Word.chars_ofText (cs : List Char) : Word.chars (Word.ofText cs) = cs := by
  simp [Word.chars, Word.ofText, Piece.chars, List.flatMap_map]

theorem Word.ofText_injective : Function.Injective Word.ofText := by
  intro cs ds h
  rw [← Word.chars_ofText cs, h, Word.chars_ofText]

theorem Word.isInert_ofText {cs : List Char} (hne : cs ≠ []) (h : ∀ c ∈ cs, isBare c = true) :
    Word.IsInert (Word.ofText cs) := by
  refine ⟨by simpa [Word.ofText] using hne, fun piece hpiece ↦ ?_⟩
  obtain ⟨c, hc, rfl⟩ := List.mem_map.1 hpiece
  exact h c hc

/-- Apart from bare characters a command has quotes, backquotes, bars and spaces only. -/
theorem mem_commandChars {words : List Word} {c : Char} (hwords : ∀ word ∈ words, Word.IsInert word)
    (hc : c ∈ commandChars words) : isBare c = true ∨ c ∈ ['"', '\x60', '|', ' '] := by
  obtain ⟨word, hword, hc⟩ := List.mem_flatMap.1 hc
  rcases List.mem_append.1 hc with hc | hc
  · obtain ⟨piece, hpiece, hc⟩ := List.mem_flatMap.1 hc
    have hinert := (hwords word hword).2 piece hpiece
    cases piece with
    | bare d =>
      left
      rw [Piece.chars, List.mem_singleton] at hc
      exact hc ▸ hinert
    | decoded hex =>
      have hquotes : (opening ++ closing).all fun d ↦
          isBare d || ['"', '\x60', '|', ' '].contains d := by decide
      simp only [List.all_eq_true, Bool.or_eq_true, List.contains_iff_mem, List.mem_append]
        at hquotes
      rw [Piece.chars, List.mem_append, List.mem_append] at hc
      rcases hc with hc | hc | hc
      · exact hquotes c (.inl hc)
      · exact .inl (isBare_of_isHexDigit (hinert c hc))
      · exact hquotes c (.inr hc)
  · right
    rw [List.mem_singleton.1 hc]
    decide

/-! ## Reading a command -/

/-- A quoted piece starts with its quote, and a space follows the digits in it. -/
theorem Piece.exists_chars_decoded :
    ∃ front back, ∀ hex, (decoded hex).chars = '"' :: (front ++ (hex ++ ' ' :: back)) := by
  have hopening : ∃ front, opening = '"' :: front := ⟨opening.tail, by decide⟩
  have hclosing : ∃ back, closing = ' ' :: back := ⟨closing.tail, by decide⟩
  obtain ⟨front, hfront⟩ := hopening
  obtain ⟨back, hback⟩ := hclosing
  refine ⟨front, back, fun hex ↦ ?_⟩
  rw [chars, hfront, hback, List.cons_append]

/-- The first character of an inert piece tells whether it is quoted. -/
theorem Piece.bare_ne_decoded {c : Char} {hex us vs : List Char} (h : (bare c).IsInert) :
    (bare c).chars ++ us ≠ (decoded hex).chars ++ vs := by
  intro heq
  obtain ⟨front, back, hchars⟩ := exists_chars_decoded
  rw [hchars] at heq
  have hc : c = '"' := (List.cons.inj heq).1
  have hquote : isBare '"' = false := by decide
  simp [IsInert, hc, hquote] at h

/-- No inert piece is the start of another one. -/
theorem Piece.chars_append_cancel {p q : Piece} {us vs : List Char} (hp : p.IsInert)
    (hq : q.IsInert) (h : p.chars ++ us = q.chars ++ vs) : p = q ∧ us = vs := by
  have hspace {hex : List Char} (hhex : (decoded hex).IsInert) : ' ' ∉ hex :=
    fun hmem ↦ absurd (hhex ' ' hmem) (by decide)
  cases p with
  | bare c =>
    cases q with
    | bare d => simpa [chars] using h
    | decoded hex => exact absurd h (bare_ne_decoded hp)
  | decoded hex =>
    cases q with
    | bare d => exact absurd h.symm (bare_ne_decoded hq)
    | decoded other =>
      obtain ⟨front, back, hchars⟩ := exists_chars_decoded
      rw [hchars, hchars] at h
      simp only [List.cons_append, List.append_assoc, List.cons.injEq, true_and,
        List.append_cancel_left_eq] at h
      obtain ⟨hhex, hrest⟩ := Text.append_cons_cancel (hspace hp) (hspace hq) h
      exact ⟨congrArg decoded hhex, List.append_cancel_left hrest⟩

theorem Piece.chars_append_ne_space {p : Piece} {us vs : List Char} (hp : p.IsInert) :
    p.chars ++ us ≠ ' ' :: vs := by
  intro heq
  cases p with
  | bare c =>
    have hc : c = ' ' := (List.cons.inj heq).1
    have hspace : isBare ' ' = false := by decide
    simp [IsInert, hc, hspace] at hp
  | decoded hex =>
    obtain ⟨front, back, hchars⟩ := exists_chars_decoded
    rw [hchars] at heq
    exact absurd (List.cons.inj heq).1 (by decide)

/-- A word ends at the first space outside its quotes. -/
theorem Word.chars_append_cancel {xs ys : Word} {us vs : List Char}
    (hxs : ∀ piece ∈ xs, piece.IsInert) (hys : ∀ piece ∈ ys, piece.IsInert)
    (h : Word.chars xs ++ ' ' :: us = Word.chars ys ++ ' ' :: vs) : xs = ys ∧ us = vs := by
  -- Both words lose the same first piece, until a space that starts no piece ends both of them.
  induction xs generalizing ys with
  | nil =>
    cases ys with
    | nil => simpa [Word.chars] using h
    | cons q ys =>
      simp only [Word.chars, List.flatMap_cons, List.append_assoc] at h
      exact absurd h.symm (Piece.chars_append_ne_space (hys q List.mem_cons_self))
  | cons p xs ih =>
    have hp := hxs p List.mem_cons_self
    cases ys with
    | nil =>
      simp only [Word.chars, List.flatMap_cons, List.append_assoc] at h
      exact absurd h (Piece.chars_append_ne_space hp)
    | cons q ys =>
      simp only [Word.chars, List.flatMap_cons, List.append_assoc] at h
      obtain ⟨hpq, hrest⟩ := Piece.chars_append_cancel hp (hys q List.mem_cons_self) h
      obtain ⟨hwords, hus⟩ := ih (fun piece hpiece ↦ hxs piece (List.mem_cons_of_mem _ hpiece))
        (fun piece hpiece ↦ hys piece (List.mem_cons_of_mem _ hpiece)) hrest
      exact ⟨by rw [hpq, hwords], hus⟩

/-- Commands of inert words are equal only if their words are. -/
theorem commandChars_injective {xs ys : List Word} (hxs : ∀ word ∈ xs, Word.IsInert word)
    (hys : ∀ word ∈ ys, Word.IsInert word) (h : commandChars xs = commandChars ys) : xs = ys := by
  induction xs generalizing ys with
  | nil =>
    cases ys with
    | nil => rfl
    | cons w ys => simp [commandChars] at h
  | cons w xs ih =>
    cases ys with
    | nil => simp [commandChars] at h
    | cons v ys =>
      obtain ⟨hw, hxs⟩ := List.forall_mem_cons.1 hxs
      obtain ⟨hv, hys⟩ := List.forall_mem_cons.1 hys
      simp only [commandChars, List.flatMap_cons, List.append_assoc, List.singleton_append] at h
      obtain ⟨hwv, hrest⟩ := Word.chars_append_cancel hw.2 hv.2 h
      rw [hwv, ih hxs hys hrest]

end BusReplay.Shell
