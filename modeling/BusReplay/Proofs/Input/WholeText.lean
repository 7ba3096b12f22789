import BusReplay.Proofs.Input.Lines
import BusReplay.Proofs.Text.Lossy

/-!
# Lines and the whole text

A stream that is read line by line reads as the whole of it does. The bytes of a character that is
not finished where its line ends are one malformed run on either way, since a newline byte begins no
part of a character.
-/

namespace BusReplay

open Text.Utf8 (Decodes decodeLossy)

/-- The decoded lines of a byte string, with their newlines. -/
structure IsTextCut (bytes : List UInt8) (lines : List String) : Prop where
  nonempty : "" ∉ lines
  body : ∀ line ∈ lines, '\n' ∉ line.toList.dropLast
  /-- Only the last line may lack its newline. -/
  terminated : ∀ line ∈ lines.dropLast, line.toList.getLast? = some '\n'
  /-- Bytes behind the last newline are one more line. -/
  length : lines.length = bytes.count newlineByte +
    if bytes = [] ∨ bytes.getLast? = some newlineByte then 0 else 1
  whole : String.join lines = .ofList (decodeLossy bytes)

variable {bytes body rest : List UInt8} {lines : List String}

theorem isTextCut_nil : IsTextCut [] [] where
  nonempty := List.not_mem_nil
  body := by simp
  terminated := by simp
  length := rfl
  whole := rfl

theorem isTextCut_singleton (hfree : newlineByte ∉ bytes) (hne : bytes ≠ []) :
    IsTextCut bytes [decodeLine bytes] where
  nonempty := by
    rw [List.mem_singleton, decodeLine]
    intro hempty
    exact hne (Text.Utf8.decodeLossy_eq_nil.1 (String.ofList_eq_empty_iff.1 hempty.symm))
  body := by
    rw [List.forall_mem_singleton, decodeLine, String.toList_ofList]
    exact fun hmem ↦ Text.Utf8.newline_notMem_decodeLossy hfree (List.dropLast_subset _ hmem)
  terminated := by simp
  length := by
    have hlast : bytes.getLast? ≠ some newlineByte := fun h ↦ hfree (List.mem_of_getLast? h)
    rw [List.count_eq_zero_of_not_mem hfree, if_neg (not_or_intro hne hlast)]
    rfl
  whole := by
    rw [String.join_cons, String.join_nil, String.append_empty, decodeLine]

theorem IsTextCut.cons (hbody : newlineByte ∉ body) (h : IsTextCut rest lines) :
    IsTextCut (body ++ newlineByte :: rest) (decodeLine (body ++ [newlineByte]) :: lines) where
  nonempty := by
    rw [List.mem_cons, not_or, decodeLine_newline]
    refine ⟨fun hempty ↦ ?_, h.nonempty⟩
    have hnil := String.ofList_eq_empty_iff.1 hempty.symm
    exact List.cons_ne_nil _ _ (List.append_eq_nil_iff.1 hnil).2
  body := by
    rw [List.forall_mem_cons, decodeLine_newline, String.toList_ofList, List.dropLast_concat]
    exact ⟨Text.Utf8.newline_notMem_decodeLossy hbody, h.body⟩
  terminated := by
    cases lines with
    | nil => simp
    | cons next lines =>
      rw [List.dropLast_cons_cons, List.forall_mem_cons, decodeLine_newline, String.toList_ofList,
        List.getLast?_concat]
      exact ⟨rfl, h.terminated⟩
  length := by
    have hlast : (body ++ newlineByte :: rest).getLast? = some newlineByte ↔
        rest = [] ∨ rest.getLast? = some newlineByte := by
      cases rest <;> simp
    rw [List.length_cons, h.length, List.count_append, List.count_eq_zero_of_not_mem hbody,
      List.count_cons_self]
    simp only [hlast, List.append_eq_nil_iff, List.cons_ne_nil, and_false, false_or]
    omega
  whole := by
    rw [String.join_cons, h.whole, decodeLine_newline, ← String.ofList_append, List.append_assoc,
      List.singleton_append]
    exact congrArg String.ofList (Text.Utf8.decodeLossy_append_newline body rest).symm

/-- The lines of bytes, each decoded on its own, are the lines of the decoded bytes. -/
theorem isTextCut_cutLines (bytes : List UInt8) :
    IsTextCut bytes ((cutLines bytes).map decodeLine) := by
  induction bytes using line_induction with
  | whole bytes hfree =>
    by_cases hnil : bytes = []
    · rw [hnil]
      exact isTextCut_nil
    · rw [cutLines_of_notMem hfree hnil]
      exact isTextCut_singleton hfree hnil
  | line body rest hbody ih =>
    rw [cutLines_append_newline hbody]
    exact ih.cons hbody

/-- Reading line by line loses nothing, and no line ends what another one begins. -/
theorem isTextCut_lines_and_decodes_iff (bytes : List UInt8) :
    IsTextCut bytes (Stream.ofBytes bytes).lines ∧
      ∀ cs, Decodes bytes cs ↔ cs = (String.join (Stream.ofBytes bytes).lines).toList := by
  have hcut : IsTextCut bytes (Stream.ofBytes bytes).lines := isTextCut_cutLines bytes
  have hjoin : (String.join (Stream.ofBytes bytes).lines).toList = decodeLossy bytes := by
    rw [hcut.whole, String.toList_ofList]
  refine ⟨hcut, fun cs ↦ ?_⟩
  rw [hjoin]
  exact Text.Utf8.decodes_iff

/-- Two characters are cut short, one by a newline and one by the end. -/
example :
    (Stream.ofBytes [0x61, 0xE2, 0x82, 0x0A, 0xF0, 0x9F]).lines = ["a\uFFFD\n", "\uFFFD"] := by
  decide

end BusReplay
