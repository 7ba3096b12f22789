import BusReplay.Proofs.Text.Hex
import BusReplay.Toml.Text
import Mathlib.Data.List.Basic

/-!
# Texts between double quotes

Between double quotes a character stands for itself, if it may, or is written as an escape, by a
letter or by its code point. However a text is written, reading gives it back, and there is a way to
write every text.
-/

namespace BusReplay.Toml

def letterEscapes : List (Char × Char) :=
  [('b', '\x08'), ('t', '\t'), ('n', '\n'), ('f', '\x0c'), ('r', '\r'), ('e', '\x1b'), ('"', '"'),
    ('\\', '\\')]

/-- The letters of the escapes by code point, and how many digits stand behind them. -/
def codeEscapes : List (Char × Nat) := [('x', 2), ('u', 4), ('U', 8)]

def ofHexDigits (values : List Nat) : Nat := values.foldl (fun n d ↦ n * 16 + d) 0

inductive SpellsChar (c : Char) : List Char → Prop
  | plain (hplain : isPlainChar c = true) (hquote : c ≠ '"') (hbackslash : c ≠ '\\') :
    SpellsChar c [c]
  | letter {l : Char} (hletter : (l, c) ∈ letterEscapes) : SpellsChar c ['\\', l]
  | code {l : Char} {digits : List Char} {values : List Nat}
    (hletter : (l, digits.length) ∈ codeEscapes)
    (hdigits : digits.map Text.hexDigit? = values.map some)
    (hcode : ofHexDigits values = c.toNat) : SpellsChar c ('\\' :: l :: digits)

inductive Spells : List Char → List Char → Prop
  | nil : Spells [] []
  | cons {c : Char} {cs written more : List Char} (hc : SpellsChar c written)
    (hcs : Spells cs more) : Spells (c :: cs) (written ++ more)

/-! ## Reading -/

theorem charOfCode?_toNat (c : Char) : Text.charOfCode? c.toNat = some c := by
  have hvalid : c.toNat.isValidChar := c.valid
  rw [Text.charOfCode?, if_pos hvalid, Char.ofNat_toNat]

/-- The digits of a code point are read in order. -/
theorem basicString_digits {digits : List Char} {values : List Nat} {more code : Nat} {c : Char}
    (hlength : digits.length = more + 1) (hdigits : digits.map Text.hexDigit? = values.map some)
    (hcode : values.foldl (fun n d ↦ n * 16 + d) code = c.toNat) (rest : List Char) :
    basicString (.digits more code) (digits ++ rest) = push c (basicString .plain rest) := by
  induction digits generalizing values more code with
  | nil => simp at hlength
  | cons d digits ih =>
    cases values with
    | nil => simp at hdigits
    | cons value values =>
      obtain ⟨hd, hdigits⟩ := List.cons.inj hdigits
      rw [List.foldl_cons] at hcode
      cases more with
      | succ more =>
        simp only [List.cons_append, basicString, hd]
        exact ih (Nat.succ.inj hlength) hdigits hcode
      | zero =>
        obtain rfl := List.length_eq_zero_iff.1 (Nat.succ.inj hlength)
        obtain rfl := List.map_eq_nil_iff.1 hdigits.symm
        rw [List.foldl_nil] at hcode
        simp only [List.cons_append, List.nil_append, basicString, hd, hcode, charOfCode?_toNat]

/-- In whatever way a character is written, it is read. -/
theorem basicString_of_spellsChar {c : Char} {written : List Char} (h : SpellsChar c written)
    (rest : List Char) :
    basicString .plain (written ++ rest) = push c (basicString .plain rest) := by
  cases h with
  | plain hplain hquote hbackslash =>
    rw [List.singleton_append, basicString, if_neg hquote, if_neg hbackslash, if_pos hplain]
  | @letter l hletter =>
    have hescaped : escapedChar? l = some c := by
      simp only [letterEscapes, List.mem_cons, Prod.mk.injEq, List.not_mem_nil, or_false] at hletter
      rcases hletter with h | h | h | h | h | h | h | h <;> rw [h.1, h.2] <;> rfl
    simp [basicString, hescaped]
  | @code l digits values hletter hdigits hcode =>
    have hread (more : Nat) (hmore : escapeDigits? l = some more) (hnone : escapedChar? l = none)
        (hlength : digits.length = more + 1) :
        basicString .plain (('\\' :: l :: digits) ++ rest) = push c (basicString .plain rest) := by
      rw [← basicString_digits hlength hdigits hcode rest]
      simp [basicString, hmore, hnone]
    simp only [codeEscapes, List.mem_cons, Prod.mk.injEq, List.not_mem_nil, or_false] at hletter
    rcases hletter with ⟨rfl, hlength⟩ | ⟨rfl, hlength⟩ | ⟨rfl, hlength⟩
    · exact hread 1 rfl rfl hlength
    · exact hread 3 rfl rfl hlength
    · exact hread 7 rfl rfl hlength

/-- However a text is written, it is read back. -/
theorem basicString_of_spells {cs written : List Char} (h : Spells cs written) (rest : List Char) :
    basicString .plain (written ++ '"' :: rest) = some (cs, rest) := by
  induction h with
  | nil => rfl
  | cons hc hcs ih => rw [List.append_assoc, basicString_of_spellsChar hc, ih, push]

theorem anyString_of_quote {cs : List Char} (h : ∀ rest, cs ≠ '"' :: '"' :: rest) :
    anyString ('"' :: cs) = basicString .plain cs := by
  unfold anyString
  split
  · next heq => exact absurd (List.cons.inj heq).2 (h _)
  · next heq => rw [(List.cons.inj heq).2]
  · next heq => cases heq
  · next heq => cases heq
  · next hquote _ _ => exact absurd rfl (hquote cs)

/-- No writing of a character starts like the end of a string. -/
theorem SpellsChar.head?_ne {c : Char} {written : List Char} (h : SpellsChar c written) :
    ∃ first more, written = first :: more ∧ first ≠ '"' := by
  cases h with
  | plain hplain hquote hbackslash => exact ⟨c, [], rfl, hquote⟩
  | letter hletter => exact ⟨'\\', _, rfl, by decide⟩
  | code hletter hdigits hcode => exact ⟨'\\', _, rfl, by decide⟩

/-- A written text in quotes is read back, unless a third quote makes an empty one the start of a
string of several lines. -/
theorem anyString_of_spells {cs written rest : List Char} (h : Spells cs written)
    (hrest : rest.head? ≠ some '"') :
    anyString ('"' :: (written ++ '"' :: rest)) = some (cs, rest) := by
  rw [anyString_of_quote, basicString_of_spells h]
  intro more heq
  cases h with
  | nil =>
    obtain ⟨-, rfl⟩ := List.cons.inj heq
    exact hrest rfl
  | cons hc hcs =>
    obtain ⟨first, rest, rfl, hfirst⟩ := hc.head?_ne
    exact hfirst (List.cons.inj heq).1

/-! ## Writing -/

/-- Eight digits of a number in base sixteen. -/
def hexPlaces (n : Nat) : List Nat :=
  [0x10000000, 0x1000000, 0x100000, 0x10000, 0x1000, 0x100, 0x10, 1].map fun place ↦
    n / place % 16

theorem ofHexDigits_hexPlaces {n : Nat} (h : n < 0x100000000) : ofHexDigits (hexPlaces n) = n := by
  simp only [ofHexDigits, hexPlaces, List.map_cons, List.map_nil, List.foldl_cons, List.foldl_nil]
  omega

/-- A character as it stands between double quotes. -/
def spellChar (c : Char) : List Char :=
  if isPlainChar c ∧ c ≠ '"' ∧ c ≠ '\\' then [c]
  else '\\' :: 'U' :: (hexPlaces c.toNat).map Nat.digitChar

def spell (cs : List Char) : List Char := cs.flatMap spellChar

theorem spellsChar_spellChar (c : Char) : SpellsChar c (spellChar c) := by
  unfold spellChar
  split
  · next h => exact .plain h.1 h.2.1 h.2.2
  · have hdigits : ((hexPlaces c.toNat).map Nat.digitChar).map Text.hexDigit? =
        (hexPlaces c.toNat).map some := by
      rw [List.map_map]
      refine List.map_congr_left fun d hd ↦ Text.hexDigit?_digitChar ?_
      obtain ⟨place, -, rfl⟩ := List.mem_map.1 hd
      exact Nat.mod_lt _ (by decide)
    have hvalid : c.toNat.isValidChar := c.valid
    refine .code (by simp [codeEscapes, hexPlaces]) hdigits (ofHexDigits_hexPlaces ?_)
    unfold Nat.isValidChar at hvalid
    omega

/-- Every text can be written. -/
theorem spells_spell (cs : List Char) : Spells cs (spell cs) := by
  induction cs with
  | nil => exact .nil
  | cons c cs ih => exact .cons (spellsChar_spellChar c) ih

end BusReplay.Toml
