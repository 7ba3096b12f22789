import BusReplay.Text.Utf8
import Mathlib.Algebra.Ring.Nat
import Mathlib.Data.List.Basic

/-!
# Decoding line by line

A byte below 0x80 never continues a character, so it ends whatever is unfinished and is always
decoded to the character of its number. The bytes on both sides of it are decoded independently.
This holds for a newline byte, and no other byte brings a newline into the decoded text.
-/

namespace BusReplay.Text.Utf8

/-! ## Unfinished characters -/

namespace Unfinished

/-- The next byte is none below 0x80, and the finished character will be none below 0x80. -/
def IsWide (p : Unfinished) : Prop :=
  0x80 ≤ p.low.toNat ∧ 0x80 ≤ (p.bits * 64 + (p.low.toNat - 0x80)) * 64 ^ p.after

theorem isWide_of_ofLead {b : UInt8} {p : Unfinished} (h : ofLead b = some p) : p.IsWide := by
  unfold ofLead at h
  split_ifs at h
  all_goals
    rw [← Option.some.inj h, IsWide]
    simp only [UInt8.lt_iff_toNat_lt, ← UInt8.toNat_inj, UInt8.reduceToNat] at *
    omega

theorem IsWide.bits_le {p : Unfinished} (hp : p.IsWide) {b : UInt8} (hb : p.low ≤ b) :
    0x80 ≤ (p.bits * 64 + (b.toNat - 0x80)) * 64 ^ p.after := by
  have hlow : p.low.toNat ≤ b.toNat := hb
  have hbits : p.bits * 64 + (p.low.toNat - 0x80) ≤ p.bits * 64 + (b.toNat - 0x80) := by
    omega
  exact Nat.le_trans hp.2 (Nat.mul_le_mul_right _ hbits)

end Unfinished

/-! ## Decoders -/

namespace Decoder

/-- What is unfinished, if anything, is wide. -/
def IsWide (d : Decoder) : Prop := ∀ p, d.current = some p → p.IsWide

/-- A decoder that has read more characters before its own. -/
def behind (d : Decoder) (earlier : List (Option Char)) : Decoder :=
  ⟨d.read ++ earlier, d.current⟩

variable {d : Decoder} {b : UInt8} {read earlier : List (Option Char)}

theorem isWide_start (read : List (Option Char)) (b : UInt8) : (start read b).IsWide := by
  unfold start IsWide
  intro p hp
  split at hp
  · simp at hp
  · split at hp
    · next lead hlead =>
      cases hp
      exact Unfinished.isWide_of_ofLead hlead
    · simp at hp

theorem IsWide.step (hd : d.IsWide) (b : UInt8) : (d.step b).IsWide := by
  unfold Decoder.step
  split
  · exact isWide_start _ _
  · next p hcurrent =>
    split
    · next hrange =>
      have hbits := (hd p hcurrent).bits_le hrange.1
      dsimp only
      split
      · intro q hq
        simp at hq
      · next k hafter =>
        intro q hq
        rw [hafter] at hbits
        rw [← Option.some.inj hq, Unfinished.IsWide]
        -- Any continuation byte may come next, so the lowest of them has to reach the bound.
        simp only [UInt8.reduceToNat, Nat.sub_self, Nat.add_zero]
        rw [Nat.pow_succ', ← Nat.mul_assoc] at hbits
        exact ⟨Nat.le_refl _, hbits⟩
    · exact isWide_start _ _

theorem IsWide.foldl (hd : d.IsWide) (bytes : List UInt8) :
    (bytes.foldl Decoder.step d).IsWide := by
  induction bytes generalizing d with
  | nil => exact hd
  | cons b bytes ih => exact ih (hd.step b)

theorem isWide_initial : initial.IsWide := fun p hp ↦ by simp [initial] at hp

/-! ### What was read earlier -/

theorem start_behind (read earlier : List (Option Char)) (b : UInt8) :
    start (read ++ earlier) b = (start read b).behind earlier := by
  unfold start
  split
  · rfl
  · split <;> rfl

theorem step_behind (d : Decoder) (earlier : List (Option Char)) (b : UInt8) :
    (d.behind earlier).step b = (d.step b).behind earlier := by
  unfold step behind
  cases d.current with
  | none => exact start_behind d.read earlier b
  | some p =>
    dsimp only
    split
    · split <;> rfl
    · exact start_behind (none :: d.read) earlier b

/-- What was read before has no part in how bytes are read. -/
theorem foldl_step_behind (d : Decoder) (earlier : List (Option Char)) (bytes : List UInt8) :
    bytes.foldl step (d.behind earlier) = (bytes.foldl step d).behind earlier := by
  induction bytes generalizing d with
  | nil => rfl
  | cons b bytes ih => rw [List.foldl_cons, List.foldl_cons, step_behind, ih]

theorem finish_behind (d : Decoder) (earlier : List (Option Char)) :
    (d.behind earlier).finish = earlier.reverse ++ d.finish := by
  unfold finish behind
  cases d.current <;> simp

/-! ### Bytes below 0x80 -/

/-- A byte below 0x80 ends what is unfinished and leaves nothing unfinished. -/
theorem step_of_lt (hd : d.IsWide) (hb : b < 0x80) :
    d.step b = initial.behind (some (Char.ofNat b.toNat) :: d.finish.reverse) := by
  have hstart (read : List (Option Char)) :
      start read b = initial.behind (some (Char.ofNat b.toNat) :: read) := by
    unfold start
    rw [if_pos hb]
    rfl
  unfold step finish
  cases hcurrent : d.current with
  | none => simpa using hstart d.read
  | some p =>
    have hlow : 0x80 ≤ p.low.toNat := (hd p hcurrent).1
    have hrange : ¬(p.low ≤ b ∧ b ≤ p.high) := by
      rintro ⟨hle, -⟩
      exact absurd (Nat.le_trans hlow hle) (Nat.not_le_of_lt hb)
    simpa [hrange] using hstart (none :: d.read)

/-! ### Newlines -/

theorem ofNat_ne_newline {n : Nat} (h : n ≠ 10) : Char.ofNat n ≠ '\n' := by
  intro heq
  have hn : (Char.ofNat n).toNat = 10 := congrArg Char.toNat heq
  by_cases hvalid : n.isValidChar
  · rw [Char.ofNat, dif_pos hvalid] at hn
    exact h hn
  · rw [Char.ofNat, dif_neg hvalid] at hn
    exact absurd hn (by decide)

theorem newline_notMem_start (hread : some '\n' ∉ read) (hb : b ≠ 10) :
    some '\n' ∉ (start read b).read := by
  have hne : b.toNat ≠ 10 := fun heq ↦ hb (UInt8.toNat_inj.1 heq)
  unfold start
  split
  · simpa [hread] using (ofNat_ne_newline hne).symm
  · split
    · exact hread
    · simpa using hread

theorem newline_notMem_step (hd : d.IsWide) (hread : some '\n' ∉ d.read) (hb : b ≠ 10) :
    some '\n' ∉ (d.step b).read := by
  unfold step
  split
  · exact newline_notMem_start hread hb
  · next p hcurrent =>
    split
    · next hrange =>
      have hbits := (hd p hcurrent).bits_le hrange.1
      dsimp only
      split
      · next hafter =>
        rw [hafter, Nat.pow_zero, Nat.mul_one] at hbits
        have hne := ofNat_ne_newline (n := p.bits * 64 + (b.toNat - 0x80)) (by omega)
        simpa [hread] using hne.symm
      · exact hread
    · exact newline_notMem_start (by simpa using hread) hb

theorem newline_notMem_foldl {bytes : List UInt8} (hd : d.IsWide) (hread : some '\n' ∉ d.read)
    (hbytes : 10 ∉ bytes) : some '\n' ∉ (bytes.foldl step d).read := by
  induction bytes generalizing d with
  | nil => exact hread
  | cons b bytes ih =>
    rw [List.mem_cons, not_or] at hbytes
    exact ih (hd.step b) (newline_notMem_step hd hread (Ne.symm hbytes.1)) hbytes.2

end Decoder

/-! ## Decoded text -/

/-- A byte below 0x80 splits the work of the decoder. -/
theorem units_append_cons {b : UInt8} (hb : b < 0x80) (front back : List UInt8) :
    units (front ++ b :: back) = units front ++ some (Char.ofNat b.toNat) :: units back := by
  have hwide := Decoder.isWide_initial.foldl front
  unfold units
  rw [List.foldl_append, List.foldl_cons, Decoder.step_of_lt hwide hb, Decoder.foldl_step_behind,
    Decoder.finish_behind]
  simp

/-- A byte below 0x80 is a character of its own, so the bytes around it are read apart. -/
theorem decodeLossy_append_cons {b : UInt8} (hb : b < 0x80) (front back : List UInt8) :
    decodeLossy (front ++ b :: back) =
      decodeLossy front ++ Char.ofNat b.toNat :: decodeLossy back := by
  unfold decodeLossy
  rw [units_append_cons hb, List.map_append, List.map_cons]
  rfl

theorem decodeLossy_append_newline (front back : List UInt8) :
    decodeLossy (front ++ 10 :: back) = decodeLossy front ++ '\n' :: decodeLossy back :=
  decodeLossy_append_cons (by decide) front back

/-- A newline is read from a newline byte only. -/
theorem newline_notMem_decodeLossy {bytes : List UInt8} (h : 10 ∉ bytes) :
    '\n' ∉ decodeLossy bytes := by
  have hread : some '\n' ∉ (bytes.foldl Decoder.step Decoder.initial).read :=
    Decoder.newline_notMem_foldl Decoder.isWide_initial (by simp [Decoder.initial]) h
  have hunits : some '\n' ∉ units bytes := by
    unfold units Decoder.finish
    split <;> simpa using hread
  intro hmem
  obtain ⟨unit, hunit, hc⟩ := List.mem_map.1 hmem
  cases unit with
  | none => exact absurd hc (by decide)
  | some c => exact hunits (hc ▸ hunit)

end BusReplay.Text.Utf8
