import BusReplay.Toml.Document
import Mathlib.Data.List.TakeDrop

/-!
# What readers leave

Whatever is read from the front of a text, what is left of the text is no longer than it was. So a
fuel that is greater than the length of the text is never used up.
-/

namespace BusReplay.Toml

theorem length_skipTrivia {inComment : Bool} {cs rest : List Char}
    (h : skipTrivia inComment cs = some rest) : rest.length ≤ cs.length := by
  fun_induction skipTrivia inComment cs <;> grind

theorem length_skipLineEnd {inComment : Bool} {cs rest : List Char}
    (h : skipLineEnd inComment cs = some rest) : rest.length ≤ cs.length := by
  fun_induction skipLineEnd inComment cs <;> grind

/-- A reader leaves no more than there was. -/
def Shortens {α : Type} (read : List Char → Option (α × List Char)) : Prop :=
  ∀ cs a rest, read cs = some (a, rest) → rest.length ≤ cs.length

/-! ## Strings and keys -/

theorem push_eq_some_iff {c : Char} {read : Option (List Char × List Char)}
    {text rest : List Char} :
    push c read = some (text, rest) ↔ ∃ more, read = some (more, rest) ∧ text = c :: more := by
  unfold push
  cases read with
  | none => simp
  | some pair => simp [Prod.ext_iff]; grind

theorem shortens_basicString (mode : StringMode) : Shortens (basicString mode) := by
  intro cs text rest h
  fun_induction basicString mode cs generalizing text <;> grind [push_eq_some_iff]

theorem shortens_longBasicString (mode : StringMode) : Shortens (longBasicString mode) := by
  intro cs text rest h
  fun_induction longBasicString mode cs generalizing text <;> grind [push_eq_some_iff]

theorem shortens_literalString : Shortens literalString := by
  intro cs text rest h
  fun_induction literalString cs generalizing text <;> grind [push_eq_some_iff]

theorem shortens_longLiteralString : Shortens longLiteralString := by
  intro cs text rest h
  fun_induction longLiteralString cs generalizing text <;> grind [push_eq_some_iff]

theorem length_dropFirstLineEnd (cs : List Char) : (dropFirstLineEnd cs).length ≤ cs.length := by
  fun_cases dropFirstLineEnd cs <;> grind

theorem shortens_anyString : Shortens anyString := by
  intro cs text rest h
  unfold anyString at h
  split at h
  · next cs =>
    have hread := shortens_longBasicString _ _ _ _ h
    have hdrop := length_dropFirstLineEnd cs
    grind
  · have hread := shortens_basicString _ _ _ _ h
    grind
  · next cs =>
    have hread := shortens_longLiteralString _ _ _ h
    have hdrop := length_dropFirstLineEnd cs
    grind
  · have hread := shortens_literalString _ _ _ h
    grind
  · cases h

theorem length_dropWhile (p : Char → Bool) (cs : List Char) :
    (cs.dropWhile p).length ≤ cs.length :=
  (List.dropWhile_suffix p).length_le

/-- What is left behind the first characters of a kind. -/
theorem length_span (p : Char → Bool) (cs : List Char) : (cs.span p).2.length ≤ cs.length := by
  rw [List.span_eq_takeWhile_dropWhile]
  exact length_dropWhile p cs

theorem shortens_keyPart : Shortens keyPart := by
  intro cs part rest h
  unfold keyPart at h
  split at h
  · obtain ⟨pair, hpair, heq⟩ := Option.map_eq_some_iff.1 h
    have hread := shortens_basicString _ _ _ _ hpair
    grind
  · obtain ⟨pair, hpair, heq⟩ := Option.map_eq_some_iff.1 h
    have hread := shortens_literalString _ _ _ hpair
    grind
  · have hspan := length_span isBareKeyChar cs
    grind

theorem shortens_keyPath (limit : Nat) : Shortens (keyPath limit) := by
  induction limit with
  | zero => nofun
  | succ limit ih =>
    intro cs parts rest h
    simp only [keyPath, Option.bind_eq_bind, Option.bind_eq_some_iff] at h
    obtain ⟨⟨part, behind⟩, hpart, h⟩ := h
    have hbehind := shortens_keyPart _ _ _ hpart
    have hblanks := length_dropWhile isSpace behind
    split at h
    · next more hmore =>
      obtain ⟨⟨parts, remaining⟩, hparts, h⟩ := Option.bind_eq_some_iff.1 h
      have hread := ih _ _ _ hparts
      have hspaces := length_dropWhile isSpace more
      grind
    · grind

theorem shortens_key : Shortens key := shortens_keyPath maxKeyParts

/-! ## Bare values -/

theorem shortens_scalar : Shortens scalar := by
  intro cs v rest h
  unfold scalar at h
  have hspan := length_span (fun c ↦ !endsScalar c) cs
  split at h
  next word behind hword =>
  rw [hword] at hspan
  split at h
  · next c more =>
    split at h
    · have hmore := length_span (fun c ↦ !endsScalar c) (c :: more)
      split at h
      next time remaining htime =>
      rw [htime] at hmore
      obtain ⟨v, hv, h⟩ := Option.bind_eq_some_iff.1 h
      grind
    · obtain ⟨v, hv, h⟩ := Option.bind_eq_some_iff.1 h
      grind
  · obtain ⟨v, hv, h⟩ := Option.bind_eq_some_iff.1 h
    grind

end BusReplay.Toml
