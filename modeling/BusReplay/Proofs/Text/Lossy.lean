import BusReplay.Proofs.Text.Encoding
import BusReplay.Proofs.Text.Fields
import BusReplay.Proofs.Text.Utf8

/-!
# What lossy decoding reads

The reading of a byte string is told by the encodings of characters alone. Where the encoding of a
character stands, the character is read. Elsewhere stands a malformed run: as many bytes as begin
the encoding of some character, and one byte if none does. The decoder finds the same runs byte by
byte, since the range that it holds for the next byte is exactly what lets the bytes read so far go
on as an encoding.
-/

namespace BusReplay.Text.Utf8

open String (utf8EncodeChar)

/-! ## Readings -/

/-- Whether some character's encoding begins with the bytes. -/
def BeginsChar (bytes : List UInt8) : Prop := ∃ c, bytes <+: utf8EncodeChar c

/-- Whether the first bytes of `run ++ rest` are a malformed run that ends before `rest`. -/
structure IsMalformedRun (run rest : List UInt8) : Prop where
  nonempty : run ≠ []
  not_char : ∀ c, ¬ utf8EncodeChar c <+: run ++ rest
  begins : run.length = 1 ∨ BeginsChar run
  maximal : ∀ longer, longer <+: run ++ rest → BeginsChar longer → longer.length ≤ run.length

/-- How a byte string reads, with one replacement character for each malformed run. -/
inductive Decodes : List UInt8 → List Char → Prop
  | nil : Decodes [] []
  | char (c : Char) {rest : List UInt8} {cs : List Char} (h : Decodes rest cs) :
      Decodes (utf8EncodeChar c ++ rest) (c :: cs)
  | malformed {run rest : List UInt8} {cs : List Char} (hrun : IsMalformedRun run rest)
      (h : Decodes rest cs) : Decodes (run ++ rest) ('\uFFFD' :: cs)

theorem IsMalformedRun.length_le {run rest other behind : List UInt8}
    (hrun : IsMalformedRun run rest) (hother : IsMalformedRun other behind)
    (h : run ++ rest = other ++ behind) : other.length ≤ run.length := by
  rcases hother.begins with hone | hbegins
  · rw [hone]
    exact List.length_pos_iff.2 hrun.nonempty
  · exact hrun.maximal other (h ▸ List.prefix_append other behind) hbegins

/-- A byte string reads in one way only. -/
theorem Decodes.unique {bytes : List UInt8} {cs others : List Char} (h : Decodes bytes cs)
    (hother : Decodes bytes others) : cs = others := by
  induction h generalizing others with
  | nil =>
    generalize hbytes : ([] : List UInt8) = bytes at hother
    cases hother with
    | nil => rfl
    | char c => exact absurd (List.append_eq_nil_iff.1 hbytes.symm).1 String.utf8EncodeChar_ne_nil
    | malformed hrun => exact absurd (List.append_eq_nil_iff.1 hbytes.symm).1 hrun.nonempty
  | @char c rest cs _ ih =>
    generalize hbytes : utf8EncodeChar c ++ rest = bytes at hother
    cases hother with
    | nil => exact absurd (List.append_eq_nil_iff.1 hbytes).1 String.utf8EncodeChar_ne_nil
    | char other hrest =>
      obtain ⟨rfl, rfl⟩ := utf8EncodeChar_append_inj hbytes
      rw [ih hrest]
    | malformed hrun => exact absurd (hbytes ▸ List.prefix_append _ _) (hrun.not_char c)
  | @malformed run rest cs hrun _ ih =>
    generalize hbytes : run ++ rest = bytes at hother
    cases hother with
    | nil => exact absurd (List.append_eq_nil_iff.1 hbytes).1 hrun.nonempty
    | char other => exact absurd (hbytes ▸ List.prefix_append _ _) (hrun.not_char other)
    | malformed hother hrest =>
      have hlength := Nat.le_antisymm (hother.length_le hrun hbytes.symm)
        (hrun.length_le hother hbytes)
      obtain ⟨rfl, rfl⟩ := List.append_inj hbytes hlength
      rw [ih hrest]

/-! ## The runs that the decoder finds -/

/-- A run ends where no byte comes next that could go on with a character. -/
theorem isMalformedRun_of_stuck {run rest : List UInt8} (hne : run ≠ [])
    (hbegins : run.length = 1 ∨ BeginsChar run) (hpart : ∀ c, ¬ utf8EncodeChar c <+: run)
    (hstuck : ∀ b c, [b] <+: rest → ¬ run ++ [b] <+: utf8EncodeChar c) :
    IsMalformedRun run rest where
  nonempty := hne
  begins := hbegins
  not_char c hc := by
    rcases prefix_append_cases hc with hrun | ⟨b, hb, hnext⟩
    · exact hpart c hrun
    · exact hstuck b c hb hnext
  maximal longer hlonger hchar := by
    obtain ⟨c, hc⟩ := hchar
    rcases prefix_append_cases hlonger with hrun | ⟨b, hb, hnext⟩
    · exact hrun.length_le
    · exact absurd (hnext.trans hc) (hstuck b c hb)

/-- A byte that begins no character is a malformed run of its own. -/
theorem isMalformedRun_singleton {b : UInt8} (hb : ∀ c, ¬ [b] <+: utf8EncodeChar c)
    (rest : List UInt8) : IsMalformedRun [b] rest := by
  apply isMalformedRun_of_stuck (List.cons_ne_nil b []) (.inl rfl)
  · intro c hc
    rcases List.prefix_cons_iff.1 hc with hnil | ⟨tail, hsingle, htail⟩
    · exact String.utf8EncodeChar_ne_nil hnil
    · rw [List.prefix_nil.1 htail] at hsingle
      exact hb c (hsingle ▸ List.prefix_refl [b])
  · intro next c _ hc
    exact hb c ((List.prefix_append [b] [next]).trans hc)

/-- The bytes of an unfinished character are a malformed run if the next one is out of range. -/
theorem Unfinished.Follows.isMalformedRun {seen rest : List UInt8} {p : Unfinished}
    (h : Follows seen p) (hrest : ∀ b, [b] <+: rest → ¬ (p.low ≤ b ∧ b ≤ p.high)) :
    IsMalformedRun seen rest := by
  obtain ⟨c, hc⟩ := h.exists_covers
  have hbegins : BeginsChar seen := ⟨c, h.encodes c hc ▸ List.prefix_append _ _⟩
  apply isMalformedRun_of_stuck h.nonempty (.inr hbegins) h.not_prefix
  intro b other hb hnext
  obtain ⟨hlow, hhigh, -⟩ := h.mem_range hnext
  exact hrest b hb ⟨hlow, hhigh⟩

namespace Decoder

/-- The text that is read from here on, after the characters that have been read. -/
def text (d : Decoder) (bytes : List UInt8) : List Char :=
  (bytes.foldl step d).finish.map fun unit ↦ unit.getD replacement

theorem text_behind (d : Decoder) (unit : Option Char) (bytes : List UInt8) :
    (d.behind [unit]).text bytes = unit.getD replacement :: d.text bytes := by
  unfold text
  rw [foldl_step_behind, finish_behind]
  rfl

/-- What a decoder is in the middle of, if anything, and the bytes that it has seen of it. -/
def Pending (seen : List UInt8) : Option Unfinished → Prop
  | none => seen = []
  | some p => Unfinished.Follows seen p

variable {b : UInt8} {bytes seen : List UInt8} {current : Option Unfinished}

theorem decodes_char (c : Char) (h : Decodes bytes (decodeLossy bytes)) :
    Decodes (utf8EncodeChar c ++ bytes) (text ⟨[some c], none⟩ bytes) := by
  have htext : text ⟨[some c], none⟩ bytes = c :: decodeLossy bytes :=
    text_behind initial (some c) bytes
  rw [htext]
  exact .char c h

theorem decodes_malformed {run rest : List UInt8} {d : Decoder} (hrun : IsMalformedRun run rest)
    (h : Decodes rest (d.text bytes)) : Decodes (run ++ rest) ((d.behind [none]).text bytes) := by
  rw [text_behind]
  exact .malformed hrun h

section Step

variable (ih : ∀ seen current, Pending seen current →
  Decodes (seen ++ bytes) (text ⟨[], current⟩ bytes))

include ih

/-- The first byte of a character. -/
theorem decodes_start : Decodes (b :: bytes) ((start [] b).text bytes) := by
  have hrest : Decodes bytes (decodeLossy bytes) := ih [] none rfl
  unfold start
  split
  · next hascii =>
    have hread := decodes_char (Char.ofNat b.toNat) hrest
    rwa [utf8EncodeChar_of_lt hascii] at hread
  · next hascii =>
    split
    · next p hp => exact ih [b] (some p) (Unfinished.follows_of_ofLead hp)
    · next hp =>
      have hrun := isMalformedRun_singleton (Unfinished.ofLead_eq_none hascii hp) bytes
      exact decodes_malformed hrun hrest

/-- A byte behind the first one, which may turn out to begin the next character. -/
theorem decodes_step {p : Unfinished} (h : Unfinished.Follows seen p) :
    Decodes (seen ++ b :: bytes) ((step ⟨[], some p⟩ b).text bytes) := by
  unfold step
  dsimp only
  split
  · next hrange =>
    obtain ⟨hlow, hhigh⟩ := hrange
    rw [← List.singleton_append, ← List.append_assoc]
    split
    · next hafter =>
      rw [← h.finish hafter hlow hhigh]
      exact decodes_char _ (ih [] none rfl)
    · next k hafter => exact ih (seen ++ [b]) (some _) (h.step hafter hlow hhigh)
  · next hrange =>
    have hrun : IsMalformedRun seen (b :: bytes) := by
      apply h.isMalformedRun
      intro next hnext
      rw [(List.cons_prefix_cons.1 hnext).1]
      exact hrange
    have hread := decodes_malformed hrun (decodes_start (b := b) ih)
    rwa [← start_behind] at hread

end Step

/-- The text that is read stands for the bytes seen before it, too. -/
theorem decodes_text (h : Pending seen current) :
    Decodes (seen ++ bytes) (text ⟨[], current⟩ bytes) := by
  induction bytes generalizing seen current with
  | nil =>
    cases current with
    | none =>
      rw [h]
      exact .nil
    | some p =>
      have hrun : IsMalformedRun seen [] := by
        apply Unfinished.Follows.isMalformedRun h
        intro next hnext
        exact absurd (List.prefix_nil.1 hnext) (List.cons_ne_nil next [])
      exact .malformed hrun .nil
  | cons b bytes ih =>
    cases current with
    | none =>
      rw [h]
      exact decodes_start fun _ _ ↦ ih
    | some p => exact decodes_step (fun _ _ ↦ ih) h

end Decoder

/-- Lossy decoding reads every byte string in the one way that there is. -/
theorem decodes_iff {bytes : List UInt8} {cs : List Char} :
    Decodes bytes cs ↔ cs = decodeLossy bytes := by
  have hpending : Decoder.Pending [] none := rfl
  have hdecodes : Decodes bytes (decodeLossy bytes) := Decoder.decodes_text hpending
  exact ⟨fun h ↦ h.unique hdecodes, fun h ↦ h ▸ hdecodes⟩

/-- Every byte leaves its mark on the text. -/
theorem decodeLossy_eq_nil {bytes : List UInt8} : decodeLossy bytes = [] ↔ bytes = [] := by
  refine ⟨fun h ↦ ?_, fun h ↦ h ▸ rfl⟩
  have hnil : Decodes bytes [] := decodes_iff.2 h.symm
  cases hnil
  rfl

end BusReplay.Text.Utf8
