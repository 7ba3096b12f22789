import BusReplay.Proofs.Record.Parser

/-!
# Writing a record as a line

The line of a record is its fields with separators between them. Reading a line undoes writing it,
whatever blank characters stand around it, except that arguments with the broken tag are lost; and
as long as none is lost, writing the record of a line gives the trimmed line back.
-/

namespace BusReplay

/-- Whether an argument carries a tag other than the broken one. -/
def Argument.isIntact (argument : Argument) : Bool := argument.tag ≠ brokenTag

namespace CallRecord

def line (record : CallRecord) : String :=
  String.intercalate ";" (record.interface :: record.objectPath :: record.method ::
    (record.arguments.flatMap fun argument ↦ [argument.tag.toString, argument.value]) ++
      [record.result])

/-- What lets a record be read back from its line: its names are proper, no separator stands in
its arguments or its result, and the result does not end in a blank character. -/
structure IsLoggable (record : CallRecord) : Prop where
  interface : NameKind.isInterface record.interface.toList = true
  objectPath : NameKind.isObjectPath record.objectPath.toList = true
  method : NameKind.isElement record.method.toList = true
  tags : ∀ argument ∈ record.arguments, argument.tag ≠ ';'
  values : ∀ argument ∈ record.arguments, ';' ∉ argument.value.toList
  result : ';' ∉ record.result.toList
  ending : ∀ c ∈ record.result.toList.getLast?, Text.isBlank c = false

/-- Whether a line has the broken tag in a field where a tag is expected: behind the three names,
in every other field that has another one between it and the end. -/
def HasBrokenTag (line : String) : Prop :=
  let fields := Text.fields ';' (Text.trim line.toList)
  ∃ k, 2 * k + 4 < fields.length ∧ fields[2 * k + 3]? = some ['/']

instance (line : String) : Decidable (HasBrokenTag line) :=
  let fields := Text.fields ';' (Text.trim line.toList)
  decidable_of_iff
    (∃ k < fields.length, 2 * k + 4 < fields.length ∧ fields[2 * k + 3]? = some ['/'])
    ⟨fun ⟨k, _, h⟩ ↦ ⟨k, h⟩, fun ⟨k, h⟩ ↦ ⟨k, lt_of_le_of_lt (by omega) h.1, h⟩⟩

end CallRecord

/-! ## Arguments -/

namespace Argument

theorem isIntact_iff {argument : Argument} : argument.isIntact = true ↔ argument.tag ≠ '/' :=
  decide_eq_true_iff

/-- The fields of arguments: a tag and a value for each. -/
def pairFields (arguments : List Argument) : List (List Char) :=
  arguments.flatMap fun argument ↦ [[argument.tag], argument.value.toList]

theorem pairFields_cons (argument : Argument) (arguments : List Argument) :
    pairFields (argument :: arguments) =
      [argument.tag] :: argument.value.toList :: pairFields arguments := rfl

theorem length_pairFields (arguments : List Argument) :
    (pairFields arguments).length = 2 * arguments.length := by
  induction arguments with
  | nil => rfl
  | cons argument arguments ih =>
    rw [pairFields_cons, List.length_cons, List.length_cons, ih, List.length_cons]
    omega

theorem getElem?_pairFields (arguments : List Argument) (k : Nat) :
    (pairFields arguments)[2 * k]? = arguments[k]?.map fun argument ↦ [argument.tag] := by
  induction arguments generalizing k with
  | nil => rfl
  | cons argument arguments ih =>
    cases k with
    | zero => rfl
    | succ k =>
      rw [pairFields_cons, Nat.mul_succ, List.getElem?_cons_succ, List.getElem?_cons_succ, ih,
        List.getElem?_cons_succ]

/-- Arguments are read back from their fields, except for the broken ones. -/
theorem ofPairs_pairFields (arguments : List Argument) :
    ofPairs (pairFields arguments) = .ok (arguments.filter isIntact) := by
  induction arguments with
  | nil => rfl
  | cons argument arguments ih =>
    rw [pairFields_cons, ofPairs, ih, List.filter_cons]
    by_cases htag : argument.tag = '/' <;>
      simp [htag, isIntact, brokenTag, bind, Except.bind, pure, Except.pure]

theorem eq_nil_of_even {fields : List (List Char)} (heven : fields.length % 2 = 0)
    (htwo : ∀ first second rest, fields = first :: second :: rest → False) : fields = [] := by
  rcases fields with _ | ⟨first, _ | ⟨second, rest⟩⟩
  · rfl
  · simp at heven
  · exact absurd rfl (htwo first second rest)

/-- Fields that can be read as arguments are the fields of some arguments. -/
theorem exists_pairFields_of_ofPairs {fields : List (List Char)} {arguments : List Argument}
    (h : ofPairs fields = .ok arguments) (heven : fields.length % 2 = 0) :
    ∃ pairs, fields = pairFields pairs := by
  induction fields using ofPairs.induct generalizing arguments with
  | case1 tag value rest ih =>
    rw [ofPairs, bind_eq_ok_iff] at h
    obtain ⟨others, hothers, -⟩ := h
    have hrest : rest.length % 2 = 0 := by
      rw [List.length_cons, List.length_cons] at heven
      omega
    obtain ⟨pairs, rfl⟩ := ih hothers hrest
    refine ⟨⟨tag, .ofList value⟩ :: pairs, ?_⟩
    rw [pairFields_cons, String.toList_ofList]
  | case2 field value rest hfield =>
    rw [ofPairs] at h
    · simp at h
    · exact hfield
  | case3 fields hone htwo =>
    obtain rfl := eq_nil_of_even heven htwo
    exact ⟨[], rfl⟩

/-- Fields are read as arguments exactly when they are written for some, and the intact ones among
these are what is read. -/
theorem ofFields_eq_ok_iff_exists {fields : List (List Char)} {arguments : List Argument} :
    ofFields fields = .ok arguments ↔
      ∃ pairs, fields = pairFields pairs ∧ arguments = pairs.filter isIntact := by
  rw [ofFields_eq_ok_iff]
  constructor
  · rintro ⟨heven, hpairs⟩
    obtain ⟨pairs, rfl⟩ := exists_pairFields_of_ofPairs hpairs heven
    rw [ofPairs_pairFields] at hpairs
    exact ⟨pairs, rfl, (Except.ok.inj hpairs).symm⟩
  · rintro ⟨pairs, rfl, rfl⟩
    exact ⟨by simp [length_pairFields], ofPairs_pairFields pairs⟩

end Argument

/-! ## Lines -/

namespace CallRecord

/-- The fields of a record, in the order of its line. -/
def fields (record : CallRecord) : List (List Char) :=
  record.interface.toList :: record.objectPath.toList :: record.method.toList ::
    (Argument.pairFields record.arguments ++ [record.result.toList])

theorem toList_line (record : CallRecord) :
    record.line.toList = [';'].intercalate record.fields := by
  have harguments : (record.arguments.flatMap fun argument ↦
      [argument.tag.toString, argument.value]).map String.toList =
        Argument.pairFields record.arguments := by
    rw [List.map_flatMap, Argument.pairFields]
    simp
  rw [line, String.toList_intercalate, List.map_append, List.map_cons, List.map_cons, List.map_cons,
    harguments]
  rfl

/-- Fields that start with an interface and end with a result neither start nor end with a blank
character. -/
theorem trim_intercalate {interface result : List Char}
    (hinterface : NameKind.isInterface interface = true)
    (hresult : ∀ c ∈ result.getLast?, Text.isBlank c = false) (between : List (List Char)) :
    Text.trim ([';'].intercalate (interface :: (between ++ [result]))) =
      [';'].intercalate (interface :: (between ++ [result])) := by
  obtain ⟨middle, hline⟩ := Text.exists_intercalate_eq ';' interface result between
  rw [hline]
  apply Text.trim_eq_self
  · intro c hc
    cases hnonempty : interface with
    | nil => exact absurd (hnonempty ▸ hinterface) (by decide)
    | cons first rest =>
      rw [hnonempty] at hc
      have hfirst : first = c := Option.some.inj hc
      have hmem : c ∈ interface := by simp [hnonempty, hfirst]
      rcases NameKind.isWord_or_dot_of_isInterface hinterface hmem with hword | rfl
      · exact NameKind.isBlank_of_isWord hword
      · decide
  · intro c hc
    rw [← List.append_assoc, List.getLast?_append_cons, List.getLast?_cons] at hc
    -- Behind an empty result the line ends with a separator.
    cases hlast : result.getLast? with
    | none =>
      rw [hlast] at hc
      cases hc
      decide
    | some last =>
      rw [hlast] at hc
      cases hc
      exact hresult last hlast

namespace IsLoggable

variable {record : CallRecord}

theorem separator_notMem_fields (h : record.IsLoggable) : ∀ field ∈ record.fields, ';' ∉ field := by
  intro field hfield hmem
  rw [fields, List.mem_cons, List.mem_cons, List.mem_cons, List.mem_append, List.mem_singleton]
    at hfield
  rcases hfield with rfl | rfl | rfl | hargument | rfl
  · exact NameKind.interface.separator_notMem h.interface hmem
  · exact NameKind.objectPath.separator_notMem h.objectPath hmem
  · exact NameKind.method.separator_notMem h.method hmem
  · obtain ⟨argument, hlogged, hfield⟩ := List.mem_flatMap.1 hargument
    rcases List.mem_pair.1 hfield with rfl | rfl
    · exact h.tags argument hlogged (List.mem_singleton.1 hmem).symm
    · exact h.values argument hlogged hmem
  · exact h.result hmem

/-- The line of a loggable call is cut into the fields of the call. -/
theorem fields_line (h : record.IsLoggable) :
    Text.fields ';' record.line.toList = record.fields := by
  rw [toList_line]
  exact Text.fields_intercalate h.separator_notMem_fields (List.cons_ne_nil _ _)

/-- A line neither starts nor ends with a blank character. -/
theorem trim_line (h : record.IsLoggable) : Text.trim record.line.toList = record.line.toList := by
  rw [toList_line]
  exact trim_intercalate h.interface h.ending
    (record.objectPath.toList :: record.method.toList :: Argument.pairFields record.arguments)

end IsLoggable

/-- A call is read back from its line, whatever blanks are around it. -/
theorem parse_surrounded_line {record : CallRecord} {before after : String}
    (h : record.IsLoggable) (hbefore : ∀ c ∈ before.toList, Text.isBlank c = true)
    (hafter : ∀ c ∈ after.toList, Text.isBlank c = true) :
    parse (before ++ record.line ++ after) record.busName =
      .ok { record with arguments := record.arguments.filter Argument.isIntact } := by
  have htrim : Text.trim (before ++ record.line ++ after).toList = record.line.toList := by
    rw [String.toList_append, String.toList_append, Text.trim_surrounded hbefore hafter,
      h.trim_line]
  refine parse_eq_ok_iff.2 ⟨Argument.pairFields record.arguments, ?_, h.interface, h.objectPath,
    h.method, Argument.ofFields_eq_ok_iff_exists.2 ⟨record.arguments, rfl, rfl⟩, rfl⟩
  rw [htrim]
  exact h.fields_line

/-- The arguments of a line without a broken tag are all in its record. -/
theorem fields_of_parse {line busName : String} {record : CallRecord}
    (h : parse line busName = .ok record) (hbroken : ¬ HasBrokenTag line) :
    Text.fields ';' (Text.trim line.toList) = record.fields := by
  obtain ⟨arguments, hfields, -, -, -, harguments, -⟩ := parse_eq_ok_iff.1 h
  obtain ⟨pairs, rfl, hpairs⟩ := Argument.ofFields_eq_ok_iff_exists.1 harguments
  have hintact : ∀ pair ∈ pairs, pair.isIntact = true := by
    intro pair hpair
    obtain ⟨k, hk, hget⟩ := List.getElem_of_mem hpair
    refine Argument.isIntact_iff.2 fun hslash ↦ hbroken ⟨k, ?_, ?_⟩
    · change 2 * k + 4 < (Text.fields fieldSeparator (Text.trim line.toList)).length
      rw [hfields]
      simp only [List.length_cons, List.length_append, Argument.length_pairFields, List.length_nil]
      omega
    · change (Text.fields fieldSeparator (Text.trim line.toList))[2 * k + 3]? = some ['/']
      have hinside : 2 * k < (Argument.pairFields pairs).length := by
        rw [Argument.length_pairFields]
        omega
      rw [hfields, List.getElem?_cons_succ, List.getElem?_cons_succ, List.getElem?_cons_succ,
        List.getElem?_append_left hinside, Argument.getElem?_pairFields,
        List.getElem?_eq_getElem hk, hget, Option.map_some, hslash]
  rw [List.filter_eq_self.2 hintact] at hpairs
  change Text.fields fieldSeparator (Text.trim line.toList) = record.fields
  rw [hfields, fields, hpairs]

/-- A line without broken tags is the line of the call that it is read as, blanks apart. -/
theorem line_of_parse {line busName : String} {record : CallRecord}
    (h : parse line busName = .ok record) (hbroken : ¬ HasBrokenTag line) :
    record.line.toList = Text.trim line.toList := by
  rw [toList_line, ← fields_of_parse h hbroken]
  exact Text.intercalate_fields ';' (Text.trim line.toList)

/-- Reading a line undoes writing it, up to arguments with a broken tag; and where a line has no
broken tag, writing its record gives it back. -/
theorem parse_line_and_line_of_parse :
    (∀ (record : CallRecord) (before after : String), record.IsLoggable →
      (∀ c ∈ before.toList, Text.isBlank c = true) → (∀ c ∈ after.toList, Text.isBlank c = true) →
      parse (before ++ record.line ++ after) record.busName =
        .ok { record with arguments := record.arguments.filter Argument.isIntact }) ∧
    ∀ (line busName : String) (record : CallRecord), parse line busName = .ok record →
      ¬ HasBrokenTag line → record.line.toList = Text.trim line.toList :=
  ⟨fun _ _ _ h hbefore hafter ↦ parse_surrounded_line h hbefore hafter,
    fun _ _ _ h hbroken ↦ line_of_parse h hbroken⟩

/-- An empty value, a lost argument, a blank tag and an empty result; and a line that ends with a
blank value. -/
theorem parse_line_and_line_of_parse_blank :
    parse "\t\u00A0a.b;/;M;s;;/;x; ; y ;\r\n" ":1.2" =
        .ok ⟨":1.2", "a.b", "/", "M", [⟨'s', ""⟩, ⟨' ', " y "⟩], ""⟩ ∧
      parse " a.b;/;M;s;/;i; ; \n" ":1.2" =
        .ok ⟨":1.2", "a.b", "/", "M", [⟨'s', "/"⟩, ⟨'i', " "⟩], ""⟩ ∧
      ¬ HasBrokenTag " a.b;/;M;s;/;i; ; \n" ∧
      (line ⟨":1.2", "a.b", "/", "M", [⟨'s', "/"⟩, ⟨'i', " "⟩], ""⟩).toList =
        Text.trim " a.b;/;M;s;/;i; ; \n".toList := by
  have hloggable : IsLoggable
      ⟨":1.2", "a.b", "/", "M", [⟨'s', ""⟩, ⟨'/', "x"⟩, ⟨' ', " y "⟩], ""⟩ :=
    ⟨by decide, by decide, by decide, by decide, by decide, by decide, by simp⟩
  have hparse : parse " a.b;/;M;s;/;i; ; \n" ":1.2" =
      .ok ⟨":1.2", "a.b", "/", "M", [⟨'s', "/"⟩, ⟨'i', " "⟩], ""⟩ := by decide +kernel
  have hbroken : ¬ HasBrokenTag " a.b;/;M;s;/;i; ; \n" := by decide +kernel
  have hread := parse_line_and_line_of_parse.1 _ "\t\u00A0" "\r\n" hloggable
    (List.all_eq_true.1 (by decide)) (List.all_eq_true.1 (by decide))
  refine ⟨?_, hparse, hbroken, parse_line_and_line_of_parse.2 _ _ _ hparse hbroken⟩
  exact hread

end CallRecord

end BusReplay
