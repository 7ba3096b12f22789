import BusReplay.Profile.Rule
import BusReplay.Text.Hex
import Mathlib.Data.List.Basic

/-!
# Bytes in base sixteen

A byte is written with two digits, in either case. So bytes are written by the even numbers of
digits.
-/

namespace BusReplay.Text

def unhex? : List Char → Option (List UInt8)
  | [] => some []
  | [_] => none
  | high :: low :: digits => do
    let first ← hexDigit? high
    let second ← hexDigit? low
    let bytes ← unhex? digits
    return .ofNat (first * 16 + second) :: bytes

theorem isHexDigit_of_hexDigit?_eq_some {c : Char} {n : Nat} (h : hexDigit? c = some n) :
    isHexDigit c = true := by
  unfold hexDigit? at h
  unfold isHexDigit Char.isDigit
  simp only [Bool.or_eq_true, Bool.and_eq_true, decide_eq_true_eq]
  split_ifs at h with hdigit hlower hupper
  · exact .inl (.inl hdigit)
  · exact .inl (.inr hlower)
  · exact .inr hupper

theorem isHexDigit_of_unhex?_eq_some {digits : List Char} {bytes : List UInt8}
    (h : unhex? digits = some bytes) : ∀ c ∈ digits, isHexDigit c = true := by
  fun_induction unhex? digits generalizing bytes with
  | case1 => simp
  | case2 => cases h
  | case3 high low digits ih =>
    simp only [Option.bind_eq_bind, Option.bind_eq_some_iff] at h
    obtain ⟨first, hfirst, second, hsecond, rest, hrest, -⟩ := h
    exact List.forall_mem_cons.2 ⟨isHexDigit_of_hexDigit?_eq_some hfirst,
      List.forall_mem_cons.2 ⟨isHexDigit_of_hexDigit?_eq_some hsecond, ih hrest⟩⟩

/-- Two digits write one byte. -/
theorem length_of_unhex?_eq_some {digits : List Char} {bytes : List UInt8}
    (h : unhex? digits = some bytes) : digits.length = 2 * bytes.length := by
  fun_induction unhex? digits generalizing bytes with
  | case1 => rw [← Option.some.inj h, List.length_nil, List.length_nil]
  | case2 => cases h
  | case3 high low digits ih =>
    simp only [Option.bind_eq_bind, Option.bind_eq_some_iff] at h
    obtain ⟨_, -, _, -, rest, hrest, hbytes⟩ := h
    rw [← Option.some.inj hbytes, List.length_cons, List.length_cons, List.length_cons, ih hrest]
    omega

theorem exists_hexDigit?_of_isHexDigit {c : Char} (h : isHexDigit c = true) :
    ∃ n, hexDigit? c = some n := by
  unfold isHexDigit Char.isDigit at h
  simp only [Bool.or_eq_true, Bool.and_eq_true, decide_eq_true_eq] at h
  unfold hexDigit?
  split_ifs with hdigit hlower hupper
  · exact ⟨_, rfl⟩
  · exact ⟨_, rfl⟩
  · exact ⟨_, rfl⟩
  · exact (h.elim (Or.elim · hdigit hlower) hupper).elim

/-- The texts that write some bytes are the even numbers of digits. -/
theorem exists_unhex?_eq_some_iff {digits : List Char} :
    (∃ bytes, unhex? digits = some bytes) ↔
      (∀ c ∈ digits, isHexDigit c = true) ∧ digits.length % 2 = 0 := by
  constructor
  · intro ⟨bytes, hbytes⟩
    have hlength := length_of_unhex?_eq_some hbytes
    exact ⟨isHexDigit_of_unhex?_eq_some hbytes, by omega⟩
  · intro ⟨hdigits, heven⟩
    fun_induction unhex? digits with
    | case1 => exact ⟨[], rfl⟩
    | case2 => simp at heven
    | case3 high low digits ih =>
      obtain ⟨hhigh, hlow, hrest⟩ := by simpa using hdigits
      obtain ⟨first, hfirst⟩ := exists_hexDigit?_of_isHexDigit hhigh
      obtain ⟨second, hsecond⟩ := exists_hexDigit?_of_isHexDigit hlow
      rw [List.length_cons, List.length_cons] at heven
      obtain ⟨bytes, hbytes⟩ := ih hrest (by omega)
      exact ⟨_, by rw [hfirst, hsecond, hbytes]; rfl⟩

theorem hexDigit?_digitChar {n : Nat} (h : n < 16) : hexDigit? n.digitChar = some n := by
  decide +revert

end BusReplay.Text
