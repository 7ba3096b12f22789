import BusReplay.Text.Utf8
import Mathlib.Algebra.Order.Group.Nat
import Mathlib.Data.Nat.Init

/-!
# Which characters can still follow

The encoding of a character is a lead byte and continuation bytes, six bits of its number in each
of them. After some bytes of it, the characters that they can begin are an interval of numbers, and
this interval is what an unfinished character holds: the bits read so far, and the range of the next
byte. A range that is narrower than that of a continuation byte leaves out overlong encodings,
surrogates and numbers beyond the last character.
-/

namespace BusReplay.Text.Utf8

open String (utf8EncodeChar)

/-! ## Encodings by numbers -/

/-- The last bytes of the encoding of a number, six bits in each. -/
def continuation : Nat → Nat → List UInt8
  | 0, _ => []
  | k + 1, n => UInt8.ofNat (0x80 + n / 64 ^ k % 64) :: continuation k n

def followers (n : Nat) : Nat :=
  if n < 0x80 then 0 else if n < 0x800 then 1 else if n < 0x10000 then 2 else 3

def leadByte (n : Nat) : Nat :=
  if n < 0x80 then n
  else if n < 0x800 then 0xC0 + n / 64
  else if n < 0x10000 then 0xE0 + n / 64 ^ 2
  else 0xF0 + n / 64 ^ 3

theorem leadByte_lt (c : Char) : leadByte c.toNat < 256 := by
  have hc : c.toNat.isValidChar := c.valid
  unfold Nat.isValidChar at hc
  unfold leadByte
  split_ifs <;> omega

/-- A character is encoded as its lead byte and the bytes that follow it. -/
theorem utf8EncodeChar_eq (c : Char) : utf8EncodeChar c =
    UInt8.ofNat (leadByte c.toNat) :: continuation (followers c.toNat) c.toNat := by
  have hc : c.toNat.isValidChar := c.valid
  unfold Nat.isValidChar at hc
  have hval : c.val.toNat = c.toNat := rfl
  unfold utf8EncodeChar leadByte followers
  dsimp only
  rw [hval]
  -- The same bounds stand on both sides, so most pairs of branches exclude each other.
  split_ifs
  all_goals try omega
  all_goals
    simp only [continuation, List.cons.injEq, and_true, ← UInt8.toNat_inj, UInt8.toNat_ofNat',
      Nat.pow_zero, Nat.pow_one, Nat.div_one]
  all_goals omega

/-- The lead byte of an encoding, whatever it is followed by. -/
theorem singleton_prefix_utf8EncodeChar_iff {b : UInt8} {c : Char} :
    [b] <+: utf8EncodeChar c ↔ leadByte c.toNat = b.toNat := by
  have hlt := leadByte_lt c
  rw [utf8EncodeChar_eq, List.cons_prefix_cons, ← UInt8.toNat_inj, UInt8.toNat_ofNat']
  simp only [List.nil_prefix, and_true]
  omega

theorem exists_toNat_eq {n : Nat} (h : n.isValidChar) : ∃ c : Char, c.toNat = n :=
  ⟨Char.ofNatAux n h, rfl⟩

/-- A byte below 0x80 is a character of its own. -/
theorem utf8EncodeChar_of_lt {b : UInt8} (hb : b < 0x80) :
    utf8EncodeChar (Char.ofNat b.toNat) = [b] := by
  have hlt : b.toNat < 0x80 := hb
  have hvalid : b.toNat.isValidChar := .inl (by omega)
  obtain ⟨c, hc⟩ := exists_toNat_eq hvalid
  rw [← hc] at hlt
  rw [← hc, Char.ofNat_toNat, utf8EncodeChar_eq, leadByte, followers, if_pos hlt, if_pos hlt, hc,
    UInt8.ofNat_toNat, continuation]

/-- A text tells where the encoding of its first character ends. -/
theorem utf8EncodeChar_append_inj {c other : Char} {rest behind : List UInt8}
    (h : utf8EncodeChar c ++ rest = utf8EncodeChar other ++ behind) :
    c = other ∧ rest = behind := by
  have hbytes := congrArg List.toByteArray h
  rw [List.toByteArray_append, List.toByteArray_append] at hbytes
  have hc : c = other := by
    have hdecoded :
        ((utf8EncodeChar c).toByteArray ++ rest.toByteArray).utf8DecodeChar? 0 = some c :=
      ByteArray.utf8DecodeChar?_utf8EncodeChar_append
    rw [hbytes, ByteArray.utf8DecodeChar?_utf8EncodeChar_append] at hdecoded
    exact (Option.some.inj hdecoded).symm
  subst hc
  exact ⟨rfl, List.append_cancel_left h⟩

/-! ## Unfinished characters -/

namespace Unfinished

/-- Whether a number is that of a character that may still come. -/
def Covers (p : Unfinished) (n : Nat) : Prop :=
  p.bits * 64 + (p.low.toNat - 0x80) ≤ n / 64 ^ p.after ∧
    n / 64 ^ p.after ≤ p.bits * 64 + (p.high.toNat - 0x80)

/-- Whether the bytes are those that an unfinished character has been read from. -/
structure Follows (seen : List UInt8) (p : Unfinished) : Prop where
  nonempty : seen ≠ []
  range : 0x80 ≤ p.low.toNat ∧ p.low.toNat ≤ p.high.toNat ∧ p.high.toNat ≤ 0xBF
  valid : ∀ n, p.Covers n → n.isValidChar
  encodes : ∀ c : Char, p.Covers c.toNat →
    utf8EncodeChar c = seen ++ continuation (p.after + 1) c.toNat
  covers : ∀ c : Char, seen <+: utf8EncodeChar c → p.Covers c.toNat

theorem ofLead_range {b : UInt8} {p : Unfinished} (h : ofLead b = some p) :
    0x80 ≤ p.low.toNat ∧ p.low.toNat ≤ p.high.toNat ∧ p.high.toNat ≤ 0xBF := by
  unfold ofLead at h
  split_ifs at h
  all_goals
    rw [← Option.some.inj h]
    simp only [UInt8.reduceToNat]
    decide

theorem ofLead_covers {b : UInt8} {p : Unfinished} {n : Nat} (h : ofLead b = some p)
    (hn : p.Covers n) : n.isValidChar ∧ leadByte n = b.toNat ∧ followers n = p.after + 1 := by
  unfold ofLead at h
  split_ifs at h
  all_goals
    rw [← Option.some.inj h] at hn ⊢
    simp only [Covers, UInt8.lt_iff_toNat_lt, ← UInt8.toNat_inj, UInt8.reduceToNat] at *
    unfold Nat.isValidChar leadByte followers
    refine ⟨?_, ?_, ?_⟩
    · omega
    · split_ifs <;> omega
    · split_ifs <;> omega

theorem covers_of_ofLead {b : UInt8} {p : Unfinished} {n : Nat} (h : ofLead b = some p)
    (hvalid : n.isValidChar) (hn : leadByte n = b.toNat) : p.Covers n := by
  unfold Nat.isValidChar at hvalid
  unfold leadByte at hn
  unfold ofLead at h
  split_ifs at h
  all_goals
    rw [← Option.some.inj h]
    simp only [Covers, UInt8.lt_iff_toNat_lt, ← UInt8.toNat_inj, UInt8.reduceToNat] at *
    split_ifs at hn <;> omega

/-- A byte that promises nothing begins no character. -/
theorem ofLead_eq_none {b : UInt8} (hb : ¬ b < 0x80) (h : ofLead b = none) (c : Char) :
    ¬ [b] <+: utf8EncodeChar c := by
  have hc : c.toNat.isValidChar := c.valid
  rw [singleton_prefix_utf8EncodeChar_iff]
  intro hn
  unfold Nat.isValidChar at hc
  unfold leadByte at hn
  unfold ofLead at h
  split_ifs at h
  all_goals
    simp only [UInt8.lt_iff_toNat_lt, ← UInt8.toNat_inj, UInt8.reduceToNat] at *
    split_ifs at hn <;> omega

theorem follows_of_ofLead {b : UInt8} {p : Unfinished} (h : ofLead b = some p) : Follows [b] p where
  nonempty := List.cons_ne_nil b []
  range := ofLead_range h
  valid n hn := (ofLead_covers h hn).1
  encodes c hc := by
    obtain ⟨-, hlead, hfollowers⟩ := ofLead_covers h hc
    rw [utf8EncodeChar_eq, hlead, hfollowers, UInt8.ofNat_toNat, List.singleton_append]
  covers c hc := covers_of_ofLead h c.valid (singleton_prefix_utf8EncodeChar_iff.1 hc)

variable {p : Unfinished} {seen : List UInt8} {b : UInt8}

/-- Some character may still come. -/
theorem Follows.exists_covers (h : Follows seen p) : ∃ c : Char, p.Covers c.toNat := by
  obtain ⟨-, hle, -⟩ := h.range
  have hn : p.Covers ((p.bits * 64 + (p.low.toNat - 0x80)) * 64 ^ p.after) := by
    unfold Covers
    rw [Nat.mul_div_cancel _ (Nat.pow_pos (by decide))]
    omega
  obtain ⟨c, hc⟩ := exists_toNat_eq (h.valid _ hn)
  exact ⟨c, hc ▸ hn⟩

/-- No character has been read to its end. -/
theorem Follows.not_prefix (h : Follows seen p) (c : Char) : ¬ utf8EncodeChar c <+: seen := by
  rintro ⟨rest, hrest⟩
  obtain ⟨other, hother⟩ := h.exists_covers
  have hencodes := h.encodes other hother
  rw [← hrest, List.append_assoc, ← List.append_nil (utf8EncodeChar other)] at hencodes
  have hnil := (utf8EncodeChar_append_inj hencodes).2
  simp [continuation] at hnil

/-- The next byte of a character that may still come tells the number down to its bits. -/
theorem Follows.next_iff (h : Follows seen p) {n : Nat} (hn : p.Covers n) :
    UInt8.ofNat (0x80 + n / 64 ^ p.after % 64) = b ↔
      p.low.toNat ≤ b.toNat ∧ b.toNat ≤ p.high.toNat ∧
        n / 64 ^ p.after = p.bits * 64 + (b.toNat - 0x80) := by
  obtain ⟨hlow, hmid, hhigh⟩ := h.range
  obtain ⟨hge, hle⟩ := hn
  rw [← UInt8.toNat_inj, UInt8.toNat_ofNat']
  omega

/-- What the next byte of a character that has begun can be. -/
theorem Follows.mem_range (h : Follows seen p) {c : Char} (hc : seen ++ [b] <+: utf8EncodeChar c) :
    p.low.toNat ≤ b.toNat ∧ b.toNat ≤ p.high.toNat ∧
      c.toNat / 64 ^ p.after = p.bits * 64 + (b.toNat - 0x80) := by
  have hcovers : p.Covers c.toNat := h.covers c ((List.prefix_append seen [b]).trans hc)
  rw [h.encodes c hcovers, List.prefix_append_right_inj, continuation, List.cons_prefix_cons] at hc
  exact (h.next_iff hcovers).1 hc.1.symm

theorem covers_of_next {k n : Nat} (hafter : p.after = k + 1) (hlow : p.low.toNat ≤ b.toNat)
    (hhigh : b.toNat ≤ p.high.toNat)
    (hn : Covers ⟨p.bits * 64 + (b.toNat - 0x80), k, 0x80, 0xBF⟩ n) :
    p.Covers n ∧ n / 64 ^ p.after = p.bits * 64 + (b.toNat - 0x80) := by
  unfold Covers at hn
  simp only [UInt8.reduceToNat] at hn
  have hnext : n / 64 ^ p.after = p.bits * 64 + (b.toNat - 0x80) := by
    rw [hafter, Nat.pow_succ, ← Nat.div_div_eq_div_mul]
    omega
  refine ⟨?_, hnext⟩
  unfold Covers
  omega

/-- A byte of the range goes on with the character. -/
theorem Follows.step (h : Follows seen p) {k : Nat} (hafter : p.after = k + 1)
    (hlow : p.low.toNat ≤ b.toNat) (hhigh : b.toNat ≤ p.high.toNat) :
    Follows (seen ++ [b]) ⟨p.bits * 64 + (b.toNat - 0x80), k, 0x80, 0xBF⟩ where
  nonempty := by simp
  range := by
    simp only [UInt8.reduceToNat]
    decide
  valid n hn := h.valid n (covers_of_next hafter hlow hhigh hn).1
  encodes c hc := by
    obtain ⟨hcovers, hnext⟩ := covers_of_next hafter hlow hhigh hc
    have hbyte := (h.next_iff hcovers).2 ⟨hlow, hhigh, hnext⟩
    rw [h.encodes c hcovers, continuation, hbyte, hafter, List.append_assoc,
      List.singleton_append]
  covers c hc := by
    obtain ⟨-, -, hnext⟩ := h.mem_range hc
    rw [hafter, Nat.pow_succ, ← Nat.div_div_eq_div_mul] at hnext
    unfold Covers
    simp only [UInt8.reduceToNat]
    omega

/-- The last byte of a character, with the number that has been read. -/
theorem Follows.finish (h : Follows seen p) (hafter : p.after = 0)
    (hlow : p.low.toNat ≤ b.toNat) (hhigh : b.toNat ≤ p.high.toNat) :
    utf8EncodeChar (Char.ofNat (p.bits * 64 + (b.toNat - 0x80))) = seen ++ [b] := by
  have hpow : 64 ^ p.after = 1 := by rw [hafter, Nat.pow_zero]
  have hcovers : p.Covers (p.bits * 64 + (b.toNat - 0x80)) := by
    unfold Covers
    rw [hpow]
    omega
  have hbyte := (h.next_iff hcovers).2 ⟨hlow, hhigh, by rw [hpow, Nat.div_one]⟩
  obtain ⟨c, hc⟩ := exists_toNat_eq (h.valid _ hcovers)
  rw [← hc] at hcovers hbyte
  rw [← hc, Char.ofNat_toNat, h.encodes c hcovers, continuation, hbyte, hafter, continuation]

end Unfinished

end BusReplay.Text.Utf8
