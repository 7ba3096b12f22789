import BusReplay.Proofs.Except
import BusReplay.Proofs.Text.Blank
import BusReplay.Proofs.Text.Fields
import BusReplay.Record.Parser

/-!
# What an accepted line says

A line is accepted exactly when its fields are three names, the fields of the arguments and a
result, and the record holds these fields as they stand in the line. Whatever a record or an error
holds of a line consists of characters of the trimmed line.
-/

namespace BusReplay

/-! ## Names -/

namespace NameKind

theorem read_eq_ok_iff {kind : NameKind} {field : List Char} {name : String} :
    kind.read field = .ok name ↔ kind.accepts field = true ∧ field = name.toList := by
  unfold read
  split
  · next haccepts =>
    rw [Except.ok.injEq, ← String.toList_inj, String.toList_ofList]
    simp [haccepts]
  · next hrejects => simp [hrejects]

theorem eq_of_read_eq_error {kind : NameKind} {field : List Char} {e : ParseError}
    (h : kind.read field = .error e) : e = .invalidName kind (.ofList field) := by
  unfold read at h
  split at h
  · simp at h
  · exact (Except.error.inj h).symm

theorem isWord_of_isElement {cs : List Char} {c : Char} (h : isElement cs = true) (hc : c ∈ cs) :
    isWord c = true := by
  cases cs with
  | nil => simp at hc
  | cons first rest =>
    simp only [isElement, Bool.and_eq_true, List.all_eq_true] at h
    rcases List.mem_cons.1 hc with rfl | hc
    · simp only [isInitial, isWord, Char.isAlphanum, Bool.or_eq_true] at h ⊢
      tauto
    · exact h.2 c hc

/-- Word characters lie between the first digit and the last small letter. -/
theorem toNat_of_isWord {c : Char} (h : isWord c = true) : 48 ≤ c.toNat ∧ c.toNat ≤ 122 := by
  unfold isWord Char.isAlphanum Char.isAlpha Char.isUpper Char.isLower Char.isDigit at h
  simp only [Bool.or_eq_true, Bool.and_eq_true, decide_eq_true_eq, beq_iff_eq,
    UInt32.le_iff_toNat_le, ge_iff_le, Char.toNat_val, Char.reduceToNat] at h
  rcases h with ((h | h) | h) | rfl
  · omega
  · omega
  · omega
  · decide

theorem isBlank_of_isWord {c : Char} (h : isWord c = true) : Text.isBlank c = false := by
  obtain ⟨hlow, hhigh⟩ := toNat_of_isWord h
  simp only [Text.isBlank, Bool.or_eq_false_iff, Bool.and_eq_false_iff, decide_eq_false_iff_not,
    beq_eq_false_iff_ne]
  omega

theorem isWord_or_dot_of_isInterface {cs : List Char} {c : Char} (h : isInterface cs = true)
    (hc : c ∈ cs) : isWord c = true ∨ c = '.' := by
  simp only [isInterface, Bool.and_eq_true, List.all_eq_true] at h
  by_cases hdot : c = '.'
  · exact .inr hdot
  · obtain ⟨element, helement, hmem⟩ := Text.exists_mem_fields_iff.2 ⟨hc, hdot⟩
    exact .inl (isWord_of_isElement (h.2 element helement) hmem)

theorem isWord_or_slash_of_isObjectPath {cs : List Char} {c : Char} (h : isObjectPath cs = true)
    (hc : c ∈ cs) : isWord c = true ∨ c = '/' := by
  by_cases hslash : c = '/'
  · exact .inr hslash
  unfold isObjectPath at h
  split at h
  · simp_all
  · next rest hne =>
    have hrest : c ∈ rest := by
      rcases List.mem_cons.1 hc with heq | hrest
      · exact absurd heq hslash
      · exact hrest
    obtain ⟨part, hpart, hmem⟩ := Text.exists_mem_fields_iff.2 ⟨hrest, hslash⟩
    simp only [List.all_eq_true, Bool.and_eq_true] at h
    exact .inl ((h part hpart).2 c hmem)
  · simp at h

/-- No name holds a separator, so it is a field of its line. -/
theorem separator_notMem (kind : NameKind) {cs : List Char} (h : kind.accepts cs = true) :
    ';' ∉ cs := by
  have hword : ¬ isWord ';' = true := by decide
  intro hmem
  cases kind with
  | interface => exact (isWord_or_dot_of_isInterface h hmem).elim hword (by decide)
  | objectPath => exact (isWord_or_slash_of_isObjectPath h hmem).elim hword (by decide)
  | method => exact hword (isWord_of_isElement h hmem)

end NameKind

/-! ## Arguments -/

namespace Argument

theorem exists_mem_of_ofPairs_eq_error {fields : List (List Char)} {e : ParseError}
    (h : ofPairs fields = .error e) : ∃ field ∈ fields, e = .invalidTypeTag (.ofList field) := by
  induction fields using ofPairs.induct with
  | case1 tag value rest ih =>
    rw [ofPairs, bind_eq_error_iff] at h
    rcases h with hrest | ⟨arguments, -, h⟩
    · obtain ⟨field, hfield, he⟩ := ih hrest
      exact ⟨field, List.mem_cons_of_mem _ (List.mem_cons_of_mem _ hfield), he⟩
    · split at h <;> simp [pure, Except.pure] at h
  | case2 field value rest hfield =>
    rw [ofPairs] at h
    · exact ⟨field, List.mem_cons_self, (Except.error.inj h).symm⟩
    · exact hfield
  | case3 fields hone htwo =>
    rw [ofPairs] at h
    · simp at h
    · exact hone
    · exact htwo

/-- Tags and values are fields of the line. -/
theorem mem_of_ofPairs_eq_ok {fields : List (List Char)} {arguments : List Argument}
    (h : ofPairs fields = .ok arguments) :
    ∀ argument ∈ arguments, [argument.tag] ∈ fields ∧ argument.value.toList ∈ fields := by
  induction fields using ofPairs.induct generalizing arguments with
  | case1 tag value rest ih =>
    rw [ofPairs, bind_eq_ok_iff] at h
    obtain ⟨others, hothers, h⟩ := h
    have hrest : ∀ argument ∈ others,
        [argument.tag] ∈ [tag] :: value :: rest ∧ argument.value.toList ∈ [tag] :: value :: rest :=
      fun argument hmem ↦ (ih hothers argument hmem).imp
        (List.mem_cons_of_mem _ <| List.mem_cons_of_mem _ ·)
        (List.mem_cons_of_mem _ <| List.mem_cons_of_mem _ ·)
    split at h
    · rw [← Except.ok.inj h]
      exact hrest
    · rw [← Except.ok.inj h, List.forall_mem_cons]
      exact ⟨by simp, hrest⟩
  | case2 field value rest hfield =>
    rw [ofPairs] at h
    · simp at h
    · exact hfield
  | case3 fields hone htwo =>
    rw [ofPairs] at h
    · simp [← Except.ok.inj h]
    · exact hone
    · exact htwo

theorem ofFields_eq_ok_iff {fields : List (List Char)} {arguments : List Argument} :
    ofFields fields = .ok arguments ↔ fields.length % 2 = 0 ∧ ofPairs fields = .ok arguments := by
  unfold ofFields
  split <;> simp_all

end Argument

/-! ## Lines -/

theorem resultLabel_congr {line other : String}
    (h : Text.trim line.toList = Text.trim other.toList) :
    resultLabel line = resultLabel other := by
  rw [resultLabel, h, resultLabel]

namespace CallRecord

/-- Blanks around a line have no part in what it is read as. -/
theorem parse_congr {line other : String} (h : Text.trim line.toList = Text.trim other.toList)
    (busName : String) : parse line busName = parse other busName := by
  unfold parse
  rw [h]

/-- Behind the three names a line has a result, and in front of that its arguments. -/
theorem parse_of_fields {line busName : String} {interface objectPath method result : List Char}
    {arguments : List (List Char)} (h : Text.fields fieldSeparator (Text.trim line.toList) =
      interface :: objectPath :: method :: (arguments ++ [result])) :
    parse line busName = (do
      let interface ← NameKind.interface.read interface
      let objectPath ← NameKind.objectPath.read objectPath
      let method ← NameKind.method.read method
      let arguments ← Argument.ofFields arguments
      return ⟨busName, interface, objectPath, method, arguments, .ofList result⟩) := by
  obtain ⟨last, rest, hlast⟩ := List.exists_cons_of_ne_nil (List.concat_ne_nil result arguments)
  have hdrop : (last :: rest).dropLast = arguments := by simp [← hlast]
  have hresult : (last :: rest).getLast (by simp) = result := by simp [← hlast]
  rw [hlast] at h
  unfold parse
  rw [h]
  simp only [hdrop, hresult]

/-- The fields of a line that logs a record. -/
theorem parse_eq_ok_iff {line busName : String} {record : CallRecord} :
    parse line busName = .ok record ↔ ∃ arguments,
      Text.fields fieldSeparator (Text.trim line.toList) =
        record.interface.toList :: record.objectPath.toList :: record.method.toList ::
          (arguments ++ [record.result.toList]) ∧
      NameKind.interface.accepts record.interface.toList = true ∧
      NameKind.objectPath.accepts record.objectPath.toList = true ∧
      NameKind.method.accepts record.method.toList = true ∧
      Argument.ofFields arguments = .ok record.arguments ∧ record.busName = busName := by
  constructor
  · intro h
    unfold parse at h
    split at h
    · next interface objectPath method last rest hfields =>
      simp only [bind_eq_ok_iff, NameKind.read_eq_ok_iff] at h
      obtain ⟨_, ⟨hinterface, rfl⟩, _, ⟨hpath, rfl⟩, _, ⟨hmethod, rfl⟩, arguments, hargs, h⟩ := h
      cases Except.ok.inj h
      refine ⟨(last :: rest).dropLast, ?_, hinterface, hpath, hmethod, hargs, rfl⟩
      rw [hfields, String.toList_ofList, List.dropLast_append_getLast]
    · simp at h
  · rintro ⟨arguments, hfields, hinterface, hpath, hmethod, hargs, rfl⟩
    rw [parse_of_fields hfields]
    simp only [bind_eq_ok_iff, NameKind.read_eq_ok_iff, String.ofList_toList]
    exact ⟨_, ⟨hinterface, rfl⟩, _, ⟨hpath, rfl⟩, _, ⟨hmethod, rfl⟩, _, hargs, rfl⟩

theorem fields_subset_trim {line : String} {field : List Char}
    (h : field ∈ Text.fields fieldSeparator (Text.trim line.toList)) :
    field ⊆ Text.trim line.toList :=
  fun _ hc ↦ Text.mem_of_mem_fields h hc

/-- Every tag and every value of a record stands in its line. -/
theorem argument_subset_trim {line busName : String} {record : CallRecord}
    (h : parse line busName = .ok record) {argument : Argument}
    (hmem : argument ∈ record.arguments) :
    argument.tag :: argument.value.toList ⊆ Text.trim line.toList := by
  obtain ⟨arguments, hfields, -, -, -, hargs, -⟩ := parse_eq_ok_iff.1 h
  have hall : arguments ⊆ Text.fields fieldSeparator (Text.trim line.toList) := by
    rw [hfields]
    intro field hfield
    simp [hfield]
  obtain ⟨htag, hvalue⟩ :=
    Argument.mem_of_ofPairs_eq_ok (Argument.ofFields_eq_ok_iff.1 hargs).2 argument hmem
  exact List.cons_subset.2 ⟨fields_subset_trim (hall htag) List.mem_cons_self,
    fields_subset_trim (hall hvalue)⟩

end CallRecord

/-! ## Errors -/

/-- What an error repeats of its line. -/
def ParseError.quoted : ParseError → List Char
  | tooFewFields _ => []
  | unpairedArgument _ => []
  | invalidTypeTag field => field.toList
  | invalidName _ value => value.toList

theorem Argument.exists_quoted_of_ofFields_eq_error {fields : List (List Char)} {e : ParseError}
    (h : ofFields fields = .error e) : e.quoted = [] ∨ e.quoted ∈ fields := by
  unfold ofFields at h
  split at h
  · obtain ⟨field, hfield, rfl⟩ := exists_mem_of_ofPairs_eq_error h
    right
    rwa [ParseError.quoted, String.toList_ofList]
  · left
    rw [← Except.error.inj h]
    rfl

/-- An error repeats a field of its line or nothing. -/
theorem CallRecord.quoted_subset_trim {line busName : String} {e : ParseError}
    (h : parse line busName = .error e) : e.quoted ⊆ Text.trim line.toList := by
  have hname {kind : NameKind} {field : List Char} (hread : kind.read field = .error e)
      (hfield : field ∈ Text.fields fieldSeparator (Text.trim line.toList)) :
      e.quoted ⊆ Text.trim line.toList := by
    rw [NameKind.eq_of_read_eq_error hread, ParseError.quoted, String.toList_ofList]
    exact fields_subset_trim hfield
  unfold parse at h
  split at h
  · next interface objectPath method last rest hfields =>
    simp only [bind_eq_error_iff] at h
    rcases h with h | ⟨_, -, h | ⟨_, -, h | ⟨_, -, h | ⟨_, -, h⟩⟩⟩⟩
    · exact hname h (by simp [hfields])
    · exact hname h (by simp [hfields])
    · exact hname h (by simp [hfields])
    · rcases Argument.exists_quoted_of_ofFields_eq_error h with hnil | hmem
      · simp [hnil]
      · refine fields_subset_trim ?_
        rw [hfields]
        have hbehind := List.dropLast_subset _ hmem
        simp [List.mem_cons.1 hbehind]
    · simp [pure, Except.pure] at h
  · rw [← Except.error.inj h]
    exact List.nil_subset _

end BusReplay
