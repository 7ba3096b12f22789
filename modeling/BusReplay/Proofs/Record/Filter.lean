import BusReplay.Record.Basic
import Mathlib.Data.List.Basic
import Mathlib.Tactic.Tauto

/-!
# What a filter accepts

A filter is told by its classes alone, not by their order or how often they were named: it accepts
the labels of the classes that it was made of.
-/

namespace BusReplay

namespace ResultFilter

theorem mem_classes_ofList_iff {classes : List ResultClass} {c : ResultClass} :
    c ∈ (ofList classes).classes ↔ c ∈ classes := by
  have hfold (seen : List ResultClass) :
      c ∈ classes.foldl (fun seen c ↦ if c ∈ seen then seen else seen ++ [c]) seen ↔
        c ∈ seen ∨ c ∈ classes := by
    induction classes generalizing seen with
    | nil => simp
    | cons first classes ih =>
      rw [List.foldl_cons, ih]
      by_cases hseen : first ∈ seen
      · rw [if_pos hseen, List.mem_cons]
        constructor
        · tauto
        · rintro (h | rfl | h)
          · exact .inl h
          · exact .inl hseen
          · exact .inr h
      · rw [if_neg hseen, List.mem_append, List.mem_singleton, List.mem_cons, or_assoc]
  simpa [ofList] using hfold []

/-- A label is wanted exactly when it is the label of a named class. -/
theorem accepts_ofList_iff {classes : List ResultClass} {label : String} :
    (ofList classes).accepts label = true ↔ ∃ c ∈ classes, c.label = label := by
  simp [accepts, mem_classes_ofList_iff]

theorem label_injective {c other : ResultClass} (h : c.label = other.label) : c = other := by
  revert h
  cases c <;> cases other <;> decide

/-- Filters accept the same labels when they name the same classes. -/
theorem accepts_ofList_eq_iff {classes others : List ResultClass} :
    (∀ label, (ofList classes).accepts label = (ofList others).accepts label) ↔
      ∀ c, c ∈ classes ↔ c ∈ others := by
  have hlabel (classes : List ResultClass) (c : ResultClass) :
      (ofList classes).accepts c.label = true ↔ c ∈ classes := by
    rw [accepts_ofList_iff]
    constructor
    · rintro ⟨other, hother, heq⟩
      exact label_injective heq ▸ hother
    · exact fun hc ↦ ⟨c, hc, rfl⟩
  constructor
  · intro h c
    rw [← hlabel classes, ← hlabel others, h c.label]
  · intro h label
    rw [Bool.eq_iff_iff, accepts_ofList_iff, accepts_ofList_iff]
    simp only [h]

end ResultFilter

end BusReplay
