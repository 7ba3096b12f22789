import BusReplay.Text.Blank
import Mathlib.Data.List.DropRight

/-!
# What trimming keeps

Trimming drops characters and adds none, and blank characters around a text do not change what is
left of it. A text that neither starts nor ends with one is left as it is.
-/

namespace BusReplay.Text

variable {cs blanks : List Char}

theorem mem_of_mem_trim {c : Char} (h : c ∈ trim cs) : c ∈ cs := by
  have hend : trim cs <+: trimStart cs := List.rdropWhile_prefix isBlank (trimStart cs)
  have hstart : trimStart cs <:+ cs := List.dropWhile_suffix isBlank
  exact hstart.mem (hend.mem h)

theorem trimStart_append_of_blank (cs : List Char) (h : ∀ c ∈ blanks, isBlank c) :
    trimStart (cs ++ blanks) = trimStart cs ++ blanks ∨
      trimStart (cs ++ blanks) = [] ∧ trimStart cs = [] := by
  unfold trimStart
  rw [List.dropWhile_append]
  split
  · next hempty =>
    right
    exact ⟨List.dropWhile_eq_nil_iff.2 h, List.isEmpty_iff.1 hempty⟩
  · left
    rfl

theorem trimEnd_append_of_blank (h : ∀ c ∈ blanks, isBlank c) :
    trimEnd (cs ++ blanks) = trimEnd cs := by
  have hreverse : ∀ c ∈ blanks.reverse, isBlank c := fun c hc ↦ h c (List.mem_reverse.1 hc)
  rw [trimEnd, trimEnd, List.reverse_append, List.dropWhile_append_of_pos hreverse]

theorem trim_append_of_blank (h : ∀ c ∈ blanks, isBlank c) : trim (cs ++ blanks) = trim cs := by
  unfold trim
  rcases trimStart_append_of_blank cs h with hkept | ⟨hempty, hnil⟩
  · rw [hkept, trimEnd_append_of_blank h]
  · rw [hempty, hnil]

theorem trim_blank_append (h : ∀ c ∈ blanks, isBlank c) : trim (blanks ++ cs) = trim cs := by
  unfold trim trimStart
  rw [List.dropWhile_append_of_pos h]

/-- Blanks that are put around a text are trimmed off. -/
theorem trim_surrounded {before after : List Char} (hbefore : ∀ c ∈ before, isBlank c)
    (hafter : ∀ c ∈ after, isBlank c) : trim (before ++ cs ++ after) = trim cs := by
  rw [trim_append_of_blank hafter, trim_blank_append hbefore]

/-- Trimming at the end drops blank characters only. -/
theorem exists_trimEnd_append (cs : List Char) :
    ∃ blanks, (∀ c ∈ blanks, isBlank c) ∧ trimEnd cs ++ blanks = cs :=
  ⟨cs.rtakeWhile isBlank, fun _ ↦ List.mem_rtakeWhile_imp, List.rdropWhile_append_rtakeWhile⟩

theorem trim_trimEnd (cs : List Char) : trim (trimEnd cs) = trim cs := by
  obtain ⟨blanks, hblanks, hcs⟩ := exists_trimEnd_append cs
  calc trim (trimEnd cs) = trim (trimEnd cs ++ blanks) := (trim_append_of_blank hblanks).symm
    _ = trim cs := by rw [hcs]

theorem trimStart_append_cons {before after : List Char} {c : Char} (hc : isBlank c = false) :
    trimStart (before ++ c :: after) = trimStart before ++ c :: after := by
  induction before with
  | nil => exact List.dropWhile_cons_of_neg (by simp [hc])
  | cons first before ih =>
    unfold trimStart at ih ⊢
    cases hfirst : isBlank first <;> simp [hfirst, ih]

theorem trimEnd_append_cons {before after : List Char} {c : Char} (hc : isBlank c = false) :
    trimEnd (before ++ c :: after) = before ++ c :: trimEnd after := by
  have hreverse : (before ++ c :: after).reverse = after.reverse ++ c :: before.reverse := by simp
  have hstart : (after.reverse ++ c :: before.reverse).dropWhile isBlank =
      after.reverse.dropWhile isBlank ++ c :: before.reverse := trimStart_append_cons hc
  rw [trimEnd, hreverse, hstart]
  simp [trimEnd]

/-- A character that is not blank parts what is trimmed at both ends. -/
theorem trim_append_cons {before after : List Char} {c : Char} (hc : isBlank c = false) :
    trim (before ++ c :: after) = trimStart before ++ c :: trimEnd after := by
  rw [trim, trimStart_append_cons hc, trimEnd_append_cons hc]

theorem count_trimStart {c : Char} (hc : isBlank c = false) (cs : List Char) :
    (trimStart cs).count c = cs.count c := by
  have hkept : ∀ blank ∈ cs.takeWhile isBlank, blank ≠ c := by
    rintro _ hmem rfl
    rw [List.mem_takeWhile_imp hmem] at hc
    cases hc
  calc (trimStart cs).count c = (cs.takeWhile isBlank).count c + (trimStart cs).count c := by
        rw [List.count_eq_zero.2 fun hmem ↦ hkept c hmem rfl, Nat.zero_add]
    _ = cs.count c := by
        rw [← List.count_append, trimStart, List.takeWhile_append_dropWhile]

theorem trim_eq_self (hstart : ∀ c ∈ cs.head?, isBlank c = false)
    (hend : ∀ c ∈ cs.getLast?, isBlank c = false) : trim cs = cs := by
  have hkept : trimStart cs = cs := by
    cases cs with
    | nil => rfl
    | cons c cs => exact List.dropWhile_cons_of_neg (by simp [hstart c rfl])
  rw [trim, hkept]
  refine List.rdropWhile_eq_self_iff.2 fun hne ↦ ?_
  rw [hend _ (List.getLast?_eq_some_getLast hne)]
  exact Bool.false_ne_true

end BusReplay.Text
