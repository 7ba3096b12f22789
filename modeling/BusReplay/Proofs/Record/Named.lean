import BusReplay.Input.Source
import BusReplay.Proofs.Record.Parser
import BusReplay.Proofs.Shell.Word

/-!
# Records with proper names

The record of an accepted line under a validated bus name has four proper names. They consist of
characters that stand for themselves in a command, so none of them holds a quote, a space or a
brace, and a method holds no dot.
-/

namespace BusReplay

open Shell (isBare)

theorem validateBusName_eq_ok_iff {name : String} :
    validateBusName name = .ok () ↔ isBusName name.toList = true := by
  unfold validateBusName
  split <;> simp_all

theorem NameKind.isBare_of_isWord {c : Char} (h : isWord c = true) : isBare c = true := by
  simp only [isWord, Bool.or_eq_true, beq_iff_eq] at h
  rcases h with halnum | rfl
  · rw [isBare, halnum, Bool.true_or]
  · decide

namespace CallRecord

/-- The names of the destination, the interface, the object and the method are proper. -/
structure IsNamed (record : CallRecord) : Prop where
  busName : isBusName record.busName.toList = true
  interface : NameKind.isInterface record.interface.toList = true
  objectPath : NameKind.isObjectPath record.objectPath.toList = true
  method : NameKind.isElement record.method.toList = true

variable {record : CallRecord}

/-- All names of a call that was read are proper. -/
theorem isNamed_of_parse {line busName : String} (hname : validateBusName busName = .ok ())
    (hparse : parse line busName = .ok record) : record.IsNamed := by
  obtain ⟨_, -, hinterface, hpath, hmethod, -, hbus⟩ := parse_eq_ok_iff.1 hparse
  refine ⟨?_, hinterface, hpath, hmethod⟩
  rw [hbus]
  exact validateBusName_eq_ok_iff.1 hname

namespace IsNamed

theorem isBare_busName (h : record.IsNamed) : ∀ c ∈ record.busName.toList, isBare c = true := by
  intro c hc
  have hall := h.busName
  simp only [isBusName, Bool.and_eq_true, List.all_eq_true] at hall
  have hbus := hall.2 c hc
  simp only [isBusNameChar, isBare, Bool.or_eq_true, beq_iff_eq, List.contains_iff_mem,
    List.mem_cons] at hbus ⊢
  tauto

theorem isBare_interface (h : record.IsNamed) :
    ∀ c ∈ record.interface.toList, isBare c = true := by
  intro c hc
  rcases NameKind.isWord_or_dot_of_isInterface h.interface hc with hword | rfl
  · exact NameKind.isBare_of_isWord hword
  · decide

theorem isBare_objectPath (h : record.IsNamed) :
    ∀ c ∈ record.objectPath.toList, isBare c = true := by
  intro c hc
  rcases NameKind.isWord_or_slash_of_isObjectPath h.objectPath hc with hword | rfl
  · exact NameKind.isBare_of_isWord hword
  · decide

theorem isBare_method (h : record.IsNamed) : ∀ c ∈ record.method.toList, isBare c = true :=
  fun _ hc ↦ NameKind.isBare_of_isWord (NameKind.isWord_of_isElement h.method hc)

theorem busName_ne_nil (h : record.IsNamed) : record.busName.toList ≠ [] := by
  intro hnil
  have hbus := h.busName
  rw [hnil] at hbus
  simp [isBusName] at hbus

theorem objectPath_ne_nil (h : record.IsNamed) : record.objectPath.toList ≠ [] := by
  intro hnil
  have hpath := h.objectPath
  rw [hnil] at hpath
  simp [NameKind.isObjectPath] at hpath

theorem dot_notMem_method (h : record.IsNamed) : '.' ∉ record.method.toList :=
  fun hdot ↦ absurd (NameKind.isWord_of_isElement h.method hdot) (by decide)

end IsNamed

end CallRecord

end BusReplay
