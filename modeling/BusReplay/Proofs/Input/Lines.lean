import BusReplay.Input.Stream
import BusReplay.Proofs.Text.Blank
import BusReplay.Proofs.Text.Utf8

/-!
# Cutting a stream into lines

The lines of a byte string are determined by what is true of them: they make up the bytes, a
newline stands at the end of its line only, and all lines but the last end with one. The newline
of a line is blank once it is decoded, so a trimmed line holds no newline at all.
-/

namespace BusReplay

/-- The lines of a byte string, with their newlines. -/
structure IsLineCut (bytes : List UInt8) (lines : List (List UInt8)) : Prop where
  flatten : lines.flatten = bytes
  nonempty : [] ∉ lines
  body : ∀ line ∈ lines, newlineByte ∉ line.dropLast
  /-- Only the last line may lack its newline. -/
  terminated : ∀ line ∈ lines.dropLast, line.getLast? = some newlineByte

variable {bytes body rest line : List UInt8} {lines : List (List UInt8)}

theorem attachByte_newline (lines : List (List UInt8)) :
    attachByte newlineByte lines = [newlineByte] :: lines := by
  cases lines <;> simp [attachByte]

/-- The first line ends at the first newline. -/
theorem cutLines_append_newline (hbody : newlineByte ∉ body) (rest : List UInt8) :
    cutLines (body ++ newlineByte :: rest) = (body ++ [newlineByte]) :: cutLines rest := by
  induction body with
  | nil => exact attachByte_newline (cutLines rest)
  | cons b body ih =>
    rw [List.mem_cons, not_or] at hbody
    calc
      _ = attachByte b (cutLines (body ++ newlineByte :: rest)) := rfl
      _ = _ := by rw [ih hbody.2, attachByte, if_neg (Ne.symm hbody.1), List.cons_append]

theorem cutLines_of_notMem (hbody : newlineByte ∉ body) (hne : body ≠ []) :
    cutLines body = [body] := by
  induction body with
  | nil => exact absurd rfl hne
  | cons b body ih =>
    rw [List.mem_cons, not_or] at hbody
    cases body with
    | nil => rfl
    | cons c body =>
      calc
        _ = attachByte b (cutLines (c :: body)) := rfl
        _ = _ := by rw [ih hbody.2 (by simp), attachByte, if_neg (Ne.symm hbody.1)]

/-- Induction over the lines of a byte string. -/
theorem line_induction {P : List UInt8 → Prop} (whole : ∀ bytes, newlineByte ∉ bytes → P bytes)
    (line : ∀ body rest, newlineByte ∉ body → P rest → P (body ++ newlineByte :: rest))
    (bytes : List UInt8) : P bytes := by
  by_cases hmem : newlineByte ∈ bytes
  · obtain ⟨body, rest, hbytes, hbody⟩ := List.eq_append_cons_of_mem hmem
    rw [hbytes]
    exact line body rest hbody (line_induction whole line rest)
  · exact whole bytes hmem
termination_by bytes.length
decreasing_by
  rw [hbytes, List.length_append, List.length_cons]
  omega

theorem IsLineCut.cons (hbody : newlineByte ∉ body) (h : IsLineCut rest lines) :
    IsLineCut (body ++ newlineByte :: rest) ((body ++ [newlineByte]) :: lines) where
  flatten := by simp [h.flatten]
  nonempty := by simp [h.nonempty]
  body := by
    rw [List.forall_mem_cons, List.dropLast_concat]
    exact ⟨hbody, h.body⟩
  terminated := by
    have hlast : (body ++ [newlineByte]).getLast? = some newlineByte := List.getLast?_concat
    cases lines with
    | nil => simp
    | cons next lines =>
      rw [List.dropLast_cons_cons, List.forall_mem_cons]
      exact ⟨hlast, h.terminated⟩

/-- What bytes are cut into are their lines. -/
theorem isLineCut_cutLines (bytes : List UInt8) : IsLineCut bytes (cutLines bytes) := by
  induction bytes using line_induction with
  | whole bytes hfree =>
    by_cases hnil : bytes = []
    · rw [hnil]
      exact ⟨rfl, by simp [cutLines], by simp [cutLines], by simp [cutLines]⟩
    · rw [cutLines_of_notMem hfree hnil]
      refine ⟨by simp, by simpa using Ne.symm hnil, ?_, by simp⟩
      rw [List.forall_mem_singleton]
      exact fun hmem ↦ hfree (List.dropLast_subset bytes hmem)
  | line body rest hbody ih =>
    rw [cutLines_append_newline hbody]
    exact ih.cons hbody

/-- A byte string has no other lines than those that are read. -/
theorem IsLineCut.eq_cutLines (h : IsLineCut bytes lines) : lines = cutLines bytes := by
  induction lines generalizing bytes with
  | nil => rw [← h.flatten]; rfl
  | cons line lines ih =>
    have hne : line ≠ [] := fun hnil ↦ h.nonempty (by simp [hnil])
    have hbody : newlineByte ∉ line.dropLast := h.body line List.mem_cons_self
    have hline : line.dropLast ++ [line.getLast hne] = line := List.dropLast_append_getLast hne
    -- A line with another one behind it ends with its newline; the last line may not.
    cases lines with
    | nil =>
      have hbytes : bytes = line := by simpa using h.flatten.symm
      rw [hbytes]
      by_cases hlast : line.getLast hne = newlineByte
      · rw [← hline, hlast, cutLines_append_newline hbody]
        rfl
      · rw [cutLines_of_notMem _ hne]
        rw [← hline]
        simpa [hbody] using Ne.symm hlast
    | cons next lines =>
      have hrest : IsLineCut (next :: lines).flatten (next :: lines) := by
        refine ⟨rfl, ?_, ?_, ?_⟩
        · exact fun hmem ↦ h.nonempty (List.mem_cons_of_mem line hmem)
        · exact fun other hother ↦ h.body other (List.mem_cons_of_mem line hother)
        · exact fun other hother ↦ h.terminated other (List.mem_cons_of_mem line hother)
      have hlast : line.getLast hne = newlineByte := by
        have hsome := h.terminated line List.mem_cons_self
        rw [List.getLast?_eq_some_getLast hne] at hsome
        exact Option.some.inj hsome
      rw [← h.flatten, List.flatten_cons, ← hline, hlast, List.append_assoc, List.singleton_append,
        cutLines_append_newline hbody, ← ih hrest]

/-! ## Bytes behind bytes -/

/-- Bytes in which every line has its newline. -/
def EndsLine (bytes : List UInt8) : Prop := bytes = [] ∨ bytes.getLast? = some newlineByte

instance (bytes : List UInt8) : Decidable (EndsLine bytes) :=
  inferInstanceAs (Decidable (bytes = [] ∨ bytes.getLast? = some newlineByte))

theorem EndsLine.of_append_newline (h : EndsLine (body ++ newlineByte :: rest)) :
    EndsLine rest := by
  cases rest with
  | nil => exact .inl rfl
  | cons b rest => exact .inr (by simpa [EndsLine] using h)

/-- Behind a newline the lines are those of the rest. -/
theorem cutLines_append (h : EndsLine bytes) (rest : List UInt8) :
    cutLines (bytes ++ rest) = cutLines bytes ++ cutLines rest := by
  induction bytes using line_induction with
  | whole bytes hfree =>
    obtain rfl : bytes = [] := h.resolve_right fun hlast ↦ hfree (List.mem_of_getLast? hlast)
    rfl
  | line body others hbody ih =>
    rw [List.append_assoc, List.cons_append, cutLines_append_newline hbody,
      ih h.of_append_newline, cutLines_append_newline hbody, List.cons_append]

/-! ## Decoded lines -/

theorem decodeLine_newline (body : List UInt8) :
    decodeLine (body ++ [newlineByte]) = .ofList (Text.Utf8.decodeLossy body ++ ['\n']) :=
  congrArg String.ofList (Text.Utf8.decodeLossy_append_newline body [])

/-- A line without the blank characters at its end. -/
def bareText (line : String) : String := .ofList (Text.trimEnd line.toList)

theorem trim_bareText (line : String) :
    Text.trim (bareText line).toList = Text.trim line.toList := by
  rw [bareText, String.toList_ofList, Text.trim_trimEnd]

/-- Nothing is left of the end of a line. -/
theorem bareText_decodeLine_newline (body : List UInt8) :
    bareText (decodeLine (body ++ [newlineByte])) =
      .ofList (Text.trimEnd (Text.Utf8.decodeLossy body)) := by
  have hblank : ∀ c ∈ ['\n'], Text.isBlank c = true := List.forall_mem_singleton.2 (by decide)
  rw [bareText, decodeLine_newline, String.toList_ofList, Text.trimEnd_append_of_blank hblank]

/-- A trimmed line has lost the only newline it may have had. -/
theorem newline_notMem_trim_decodeLine (hbody : newlineByte ∉ line.dropLast) :
    '\n' ∉ Text.trim (decodeLine line).toList := by
  intro hmem
  by_cases hfree : newlineByte ∈ line
  · have hne : line ≠ [] := List.ne_nil_of_mem hfree
    have hline : line.dropLast ++ [line.getLast hne] = line := List.dropLast_append_getLast hne
    have hlast : line.getLast hne = newlineByte := by
      rw [← hline] at hfree
      simpa [hbody, eq_comm] using hfree
    have hblank : ∀ c ∈ ['\n'], Text.isBlank c = true := List.forall_mem_singleton.2 (by decide)
    rw [← hline, hlast, decodeLine_newline, String.toList_ofList,
      Text.trim_append_of_blank hblank] at hmem
    exact Text.Utf8.newline_notMem_decodeLossy hbody (Text.mem_of_mem_trim hmem)
  · rw [decodeLine, String.toList_ofList] at hmem
    exact Text.Utf8.newline_notMem_decodeLossy hfree (Text.mem_of_mem_trim hmem)

/-! ## Carriage returns -/

def carriageReturnByte : UInt8 := 13

/-- Bytes with a carriage return in front of every newline. -/
def withCarriageReturns (bytes : List UInt8) : List UInt8 :=
  bytes.flatMap fun b ↦ if b = newlineByte then [carriageReturnByte, newlineByte] else [b]

theorem withCarriageReturns_of_notMem (hbody : newlineByte ∉ body) :
    withCarriageReturns body = body := by
  have hkept : ∀ b ∈ body,
      (if b = newlineByte then [carriageReturnByte, newlineByte] else [b]) = [b] :=
    fun b hb ↦ if_neg (ne_of_mem_of_not_mem hb hbody)
  rw [withCarriageReturns, List.flatMap_congr hkept]
  exact List.flatMap_singleton' body

theorem withCarriageReturns_append_newline (hbody : newlineByte ∉ body) (rest : List UInt8) :
    withCarriageReturns (body ++ newlineByte :: rest) =
      body ++ [carriageReturnByte] ++ newlineByte :: withCarriageReturns rest := by
  calc withCarriageReturns (body ++ newlineByte :: rest)
      = withCarriageReturns body ++ withCarriageReturns (newlineByte :: rest) :=
        List.flatMap_append
    _ = _ := by
        rw [withCarriageReturns_of_notMem hbody, List.append_assoc]
        rfl

/-- Whatever stands in front of it, a carriage return is read as one, and so it is blank. -/
theorem bareText_carriageReturn (body : List UInt8) :
    bareText (decodeLine (body ++ [carriageReturnByte] ++ [newlineByte])) =
      bareText (decodeLine (body ++ [newlineByte])) := by
  have hdecoded : Text.Utf8.decodeLossy (body ++ [carriageReturnByte]) =
      Text.Utf8.decodeLossy body ++ ['\r'] :=
    Text.Utf8.decodeLossy_append_cons (by decide) body []
  have hblank : ∀ c ∈ ['\r'], Text.isBlank c = true := List.forall_mem_singleton.2 (by decide)
  rw [bareText_decodeLine_newline, hdecoded, Text.trimEnd_append_of_blank hblank,
    bareText_decodeLine_newline]

/-- Carriage returns in front of the newlines change the ends of lines only. -/
theorem bareLines_withCarriageReturns (bytes : List UInt8) :
    ((cutLines (withCarriageReturns bytes)).map decodeLine).map bareText =
      ((cutLines bytes).map decodeLine).map bareText := by
  induction bytes using line_induction with
  | whole bytes hfree => rw [withCarriageReturns_of_notMem hfree]
  | line body rest hbody ih =>
    have hlonger : newlineByte ∉ body ++ [carriageReturnByte] := by
      rw [List.mem_append, not_or]
      exact ⟨hbody, by decide⟩
    rw [withCarriageReturns_append_newline hbody, cutLines_append_newline hlonger,
      cutLines_append_newline hbody]
    exact congrArg₂ List.cons (bareText_carriageReturn body) ih

end BusReplay
