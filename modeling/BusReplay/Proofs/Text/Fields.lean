import BusReplay.Text.Fields
import Mathlib.Data.List.DropRight

/-!
# Cutting a text and joining it again

Cutting at a separator is the library's `splitOn`, so joining the fields with the separator gives
the text back, and no field contains the separator. The last field can be told by what surrounds
it, and the search from the end of the text finds the same characters as the cut from its start.
-/

namespace BusReplay.Text

variable {separator : Char} {cs last : List Char}

/-- The first place where something stands cuts a list in one way only. -/
theorem append_cons_cancel {α : Type} {a : α} {xs ys us vs : List α} (hxs : a ∉ xs) (hus : a ∉ us)
    (h : xs ++ a :: ys = us ++ a :: vs) : xs = us ∧ ys = vs := by
  rcases List.append_eq_append_iff.1 h with ⟨between, rfl, htail⟩ | ⟨between, rfl, htail⟩
  · cases between with
    | nil => simpa using htail
    | cons b between => simp_all
  · cases between with
    | nil => simpa using htail.symm
    | cons b between => simp_all

/-- What does not stand in the first of two lists stands in the second. -/
theorem exists_of_append_eq_append_cons {α : Type} {a : α} {xs ys us vs : List α} (hxs : a ∉ xs)
    (h : xs ++ ys = us ++ a :: vs) : ∃ between, us = xs ++ between ∧ ys = between ++ a :: vs := by
  rcases List.append_eq_append_iff.1 h with ⟨between, hus, hys⟩ | ⟨between, rfl, hvs⟩
  · exact ⟨between, hus, hys⟩
  · cases between with
    | nil => exact ⟨[], by simp, by simpa using hvs.symm⟩
    | cons b between =>
      obtain rfl : a = b := (List.cons.inj hvs).1
      exact absurd (by simp) hxs

/-- The start of a list ends in its front, or goes on behind it. -/
theorem prefix_append_cases {α : Type} {l front back : List α} (h : l <+: front ++ back) :
    l <+: front ∨ ∃ b, [b] <+: back ∧ front ++ [b] <+: l := by
  rcases List.prefix_or_prefix_of_prefix h (List.prefix_append front back) with hl | ⟨more, rfl⟩
  · exact .inl hl
  · cases more with
    | nil => exact .inl (by simp)
    | cons b more =>
      rw [List.prefix_append_right_inj, ← List.singleton_append] at h
      refine .inr ⟨b, (List.prefix_append [b] more).trans h, ?_⟩
      rw [List.prefix_append_right_inj, ← List.singleton_append]
      exact List.prefix_append [b] more

theorem fields_cons (separator c : Char) (cs : List Char) :
    fields separator (c :: cs) = attach separator c (fields separator cs) := rfl

theorem fields_eq_splitOn (separator : Char) (cs : List Char) :
    fields separator cs = cs.splitOn separator := by
  induction cs with
  | nil => rfl
  | cons c cs ih =>
    obtain ⟨field, rest, hsplit⟩ := List.exists_cons_of_ne_nil (List.splitOn_ne_nil separator cs)
    rw [fields_cons, ih, List.splitOn_cons_eq_if_modifyHead, hsplit]
    simp [attach]

theorem fields_ne_nil (separator : Char) (cs : List Char) : fields separator cs ≠ [] := by
  rw [fields_eq_splitOn]
  exact List.splitOn_ne_nil separator cs

/-- The fields of a text make up the text again. -/
theorem intercalate_fields (separator : Char) (cs : List Char) :
    [separator].intercalate (fields separator cs) = cs := by
  rw [fields_eq_splitOn]
  exact List.intercalate_splitOn separator

/-- Texts without separators are the fields of what they make up. -/
theorem fields_intercalate {parts : List (List Char)} (hfree : ∀ part ∈ parts, separator ∉ part)
    (hne : parts ≠ []) : fields separator ([separator].intercalate parts) = parts := by
  rw [fields_eq_splitOn]
  exact List.splitOn_intercalate separator hfree hne

theorem intercalate_cons (separator : Char) (first : List Char) (others : List (List Char)) :
    [separator].intercalate (first :: others) =
      first ++ others.flatMap fun part ↦ separator :: part := by
  induction others generalizing first with
  | nil => simp
  | cons next others ih =>
    rw [List.intercalate_cons_cons, ih, List.flatMap_cons]
    simp

/-- Fields with a separator in front of each of them. -/
theorem flatMap_cons_eq (separator : Char) {parts : List (List Char)} (hne : parts ≠ []) :
    (parts.flatMap fun part ↦ separator :: part) = separator :: [separator].intercalate parts := by
  obtain ⟨first, others, rfl⟩ := List.exists_cons_of_ne_nil hne
  rw [List.flatMap_cons, intercalate_cons, List.cons_append]

/-- Joined fields start with the first of them and end with the last. -/
theorem exists_intercalate_eq (separator : Char) (first last : List Char)
    (between : List (List Char)) : ∃ middle,
      [separator].intercalate (first :: (between ++ [last])) =
        first ++ (middle ++ separator :: last) := by
  induction between generalizing first with
  | nil => exact ⟨[], by simp⟩
  | cons next between ih =>
    obtain ⟨middle, hmiddle⟩ := ih next
    refine ⟨separator :: next ++ middle, ?_⟩
    rw [List.cons_append, List.intercalate_cons_cons, hmiddle]
    simp

theorem fields_of_notMem (h : separator ∉ cs) : fields separator cs = [cs] := by
  rw [fields_eq_splitOn]
  exact List.splitOn_eq_singleton h

theorem fields_append_cons (before after : List Char) :
    fields separator (before ++ separator :: after) =
      fields separator before ++ fields separator after := by
  simp only [fields_eq_splitOn]
  exact List.splitOn_append_cons_self before after

/-- The fields of joined texts are those of each text. -/
theorem fields_intercalate_eq_flatMap (separator : Char) (first : List Char)
    (others : List (List Char)) :
    fields separator ([separator].intercalate (first :: others)) =
      (first :: others).flatMap (fields separator) := by
  induction others generalizing first with
  | nil => simp
  | cons next others ih =>
    rw [List.intercalate_cons_cons, List.append_assoc, List.singleton_append, fields_append_cons,
      ih]
    exact List.flatMap_cons.symm

/-- There is one more field than there are separators. -/
theorem length_fields (separator : Char) (cs : List Char) :
    (fields separator cs).length = cs.count separator + 1 := by
  induction cs with
  | nil => rfl
  | cons c cs ih =>
    obtain ⟨field, rest, hsplit⟩ := List.exists_cons_of_ne_nil (fields_ne_nil separator cs)
    rw [hsplit] at ih
    rw [fields_cons, hsplit]
    by_cases hc : c = separator <;> simp_all [attach]

/-- The fields hold every character of the text but the separators. -/
theorem flatten_fields (separator : Char) (cs : List Char) :
    (fields separator cs).flatten = cs.filter (· ≠ separator) := by
  induction cs with
  | nil => rfl
  | cons c cs ih =>
    obtain ⟨field, rest, hsplit⟩ := List.exists_cons_of_ne_nil (fields_ne_nil separator cs)
    rw [hsplit] at ih
    rw [fields_cons, hsplit]
    by_cases hc : c = separator <;> simp_all [attach]

theorem exists_mem_fields_iff {c : Char} :
    (∃ field ∈ fields separator cs, c ∈ field) ↔ c ∈ cs ∧ c ≠ separator := by
  rw [← List.mem_flatten, flatten_fields]
  simp

theorem mem_of_mem_fields {field : List Char} {c : Char} (hfield : field ∈ fields separator cs)
    (hc : c ∈ field) : c ∈ cs :=
  (exists_mem_fields_iff.1 ⟨field, hfield, hc⟩).1

/-! ## The last field -/

/-- The last field of a text: free of separators, and either the whole text or behind one. -/
def IsLastField (separator : Char) (cs last : List Char) : Prop :=
  separator ∉ last ∧ (cs = last ∨ ∃ before, cs = before ++ separator :: last)

theorem afterLast_append_cons (before : List Char) (h : separator ∉ last) :
    afterLast separator (before ++ separator :: last) = last := by
  have hkept : ∀ c ∈ last.reverse, decide (c ≠ separator) = true := by
    intro c hc
    have hne : c ≠ separator := ne_of_mem_of_not_mem (List.mem_reverse.1 hc) h
    simpa using hne
  rw [afterLast, List.reverse_append, List.reverse_cons, List.append_assoc,
    List.takeWhile_append_of_pos hkept]
  simp

/-- The search from the end stops at the last separator. -/
theorem isLastField_afterLast (separator : Char) (cs : List Char) :
    IsLastField separator cs (afterLast separator cs) := by
  by_cases hmem : separator ∈ cs
  · obtain ⟨behind, front, hcut, hfree⟩ :=
      List.eq_append_cons_of_mem (List.mem_reverse.2 hmem)
    have hcs : cs = front.reverse ++ separator :: behind.reverse := by
      simpa using congrArg List.reverse hcut
    rw [hcs, afterLast_append_cons _ (by simpa using hfree)]
    exact ⟨by simpa using hfree, .inr ⟨_, rfl⟩⟩
  · have hwhole : afterLast separator cs = cs := by
      refine List.rtakeWhile_eq_self_iff.2 fun c hc ↦ ?_
      have hne : c ≠ separator := ne_of_mem_of_not_mem hc hmem
      simpa using hne
    rw [hwhole]
    exact ⟨hmem, .inl rfl⟩

/-- The cut from the start ends with the last field. -/
theorem getLast_fields (h : IsLastField separator cs last) :
    (fields separator cs).getLast (fields_ne_nil separator cs) = last := by
  obtain ⟨hfree, rfl | ⟨before, rfl⟩⟩ := h
  · simp [fields_of_notMem hfree]
  · simp [fields_append_cons, fields_of_notMem hfree]

theorem IsLastField.unique {other : List Char} (h : IsLastField separator cs last)
    (hother : IsLastField separator cs other) : last = other := by
  rw [← getLast_fields h, getLast_fields hother]

end BusReplay.Text
