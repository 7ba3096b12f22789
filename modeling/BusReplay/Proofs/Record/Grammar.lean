import BusReplay.Proofs.Record.Line
import BusReplay.Proofs.Record.Name
import Mathlib.Algebra.Ring.Parity

/-!
# The grammar of a line

What reading a line gives is determined by its fields: a record if they follow the grammar, and
else the first fault of them. The faults are looked for in a fixed order, so each of them is told
together with what is in order before it: the number of fields, then the names, then the number of
argument fields, then the tags from left to right.
-/

namespace BusReplay

/-- The names that a line starts with are all proper. -/
structure ProperNames (interface objectPath method : List Char) : Prop where
  interface : NameKind.interface.IsName interface
  objectPath : NameKind.objectPath.IsName objectPath
  method : NameKind.method.IsName method

/-- What the fields of a line are read as. -/
inductive Reads (busName : String) : List (List Char) → Except ParseError CallRecord → Prop
  | tooFew {fields : List (List Char)} (hfew : fields.length < 4) :
    Reads busName fields (.error (.tooFewFields fields.length))
  | interface {interface objectPath method result : List Char} {arguments : List (List Char)}
    (hinterface : ¬ NameKind.interface.IsName interface) :
    Reads busName (interface :: objectPath :: method :: (arguments ++ [result]))
      (.error (.invalidName .interface (.ofList interface)))
  | objectPath {interface objectPath method result : List Char} {arguments : List (List Char)}
    (hinterface : NameKind.interface.IsName interface)
    (hobjectPath : ¬ NameKind.objectPath.IsName objectPath) :
    Reads busName (interface :: objectPath :: method :: (arguments ++ [result]))
      (.error (.invalidName .objectPath (.ofList objectPath)))
  | method {interface objectPath method result : List Char} {arguments : List (List Char)}
    (hinterface : NameKind.interface.IsName interface)
    (hobjectPath : NameKind.objectPath.IsName objectPath)
    (hmethod : ¬ NameKind.method.IsName method) :
    Reads busName (interface :: objectPath :: method :: (arguments ++ [result]))
      (.error (.invalidName .method (.ofList method)))
  | unpaired {interface objectPath method result : List Char} {arguments : List (List Char)}
    (hnames : ProperNames interface objectPath method) (hodd : Odd arguments.length) :
    Reads busName (interface :: objectPath :: method :: (arguments ++ [result]))
      (.error (.unpairedArgument arguments.length))
  /-- Behind pairs with proper tags there is a field in the place of a tag that is not one
  character. -/
  | tag {interface objectPath method result field value : List Char} {pairs : List Argument}
    {others : List (List Char)} (hnames : ProperNames interface objectPath method)
    (hothers : Even others.length) (hfield : field.length ≠ 1) :
    Reads busName (interface :: objectPath :: method ::
        (Argument.pairFields pairs ++ field :: value :: others ++ [result]))
      (.error (.invalidTypeTag (.ofList field)))
  | record {interface objectPath method result : List Char} {pairs : List Argument}
    (hnames : ProperNames interface objectPath method) :
    Reads busName (interface :: objectPath :: method :: (Argument.pairFields pairs ++ [result]))
      (.ok ⟨busName, .ofList interface, .ofList objectPath, .ofList method,
        pairs.filter Argument.isIntact, .ofList result⟩)

/-! ## Names and arguments -/

namespace NameKind

variable {kind : NameKind} {field : List Char}

theorem read_of_isName (h : kind.IsName field) : kind.read field = .ok (.ofList field) :=
  if_pos (accepts_iff_isName.2 h)

theorem read_of_not_isName (h : ¬ kind.IsName field) :
    kind.read field = .error (.invalidName kind (.ofList field)) :=
  if_neg (mt accepts_iff_isName.1 h)

end NameKind

namespace Argument

theorem ofFields_of_even {fields : List (List Char)} (h : Even fields.length) :
    ofFields fields = ofPairs fields :=
  if_pos (Nat.even_iff.1 h)

theorem ofFields_of_odd {fields : List (List Char)} (h : Odd fields.length) :
    ofFields fields = .error (.unpairedArgument fields.length) :=
  if_neg (mt Nat.even_iff.2 (Nat.not_even_iff_odd.2 h))

theorem even_length_pairFields (arguments : List Argument) :
    Even (pairFields arguments).length :=
  length_pairFields arguments ▸ even_two_mul arguments.length

theorem ofPairs_cons_of_length_ne_one {field : List Char} (hfield : field.length ≠ 1)
    (value : List Char) (others : List (List Char)) :
    ofPairs (field :: value :: others) = .error (.invalidTypeTag (.ofList field)) := by
  rw [ofPairs]
  rintro tag rfl
  exact hfield rfl

/-- Whatever follows the first field that is no tag, it is this one that is reported. -/
theorem ofPairs_append_of_length_ne_one (pairs : List Argument) {field : List Char}
    (hfield : field.length ≠ 1) (value : List Char) (others : List (List Char)) :
    ofPairs (pairFields pairs ++ field :: value :: others) =
      .error (.invalidTypeTag (.ofList field)) := by
  induction pairs with
  | nil => exact ofPairs_cons_of_length_ne_one hfield value others
  | cons pair pairs ih =>
    rw [pairFields_cons, List.cons_append, List.cons_append, ofPairs, ih]
    rfl

/-- Fields that come in pairs have proper tags up to the end or up to a first one that is not. -/
theorem exists_pairFields_or {fields : List (List Char)} (heven : Even fields.length) :
    (∃ pairs, fields = pairFields pairs) ∨
      ∃ pairs field value others, fields = pairFields pairs ++ field :: value :: others ∧
        Even others.length ∧ field.length ≠ 1 := by
  have hrest {first second : List Char} {rest : List (List Char)}
      (h : Even (first :: second :: rest).length) : Even rest.length := by
    rwa [List.length_cons, List.length_cons, Nat.even_add_one, Nat.even_add_one, not_not] at h
  induction fields using ofPairs.induct with
  | case1 tag value rest ih =>
    have hpair (pairs : List Argument) :
        [tag] :: value :: pairFields pairs = pairFields (⟨tag, .ofList value⟩ :: pairs) := by
      rw [pairFields_cons, String.toList_ofList]
    rcases ih (hrest heven) with
      ⟨pairs, rfl⟩ | ⟨pairs, field, second, others, rfl, hothers, hfield⟩
    · exact .inl ⟨_, hpair pairs⟩
    · refine .inr ⟨⟨tag, .ofList value⟩ :: pairs, field, second, others, ?_, hothers, hfield⟩
      rw [← hpair]
      rfl
  | case2 field value rest hfield =>
    have hlength : field.length ≠ 1 := fun h ↦
      (List.length_eq_one_iff.1 h).elim hfield
    exact .inr ⟨[], field, value, rest, rfl, hrest heven, hlength⟩
  | case3 fields hone htwo =>
    exact .inl ⟨[], eq_nil_of_even (Nat.even_iff.1 heven) htwo⟩

end Argument

/-! ## Lines -/

namespace CallRecord

variable {line busName : String} {interface objectPath method result : List Char}
  {arguments : List (List Char)}

/-- Behind proper names it is left to the arguments what a line is read as. -/
theorem parse_of_properNames (hnames : ProperNames interface objectPath method)
    (h : Text.fields fieldSeparator (Text.trim line.toList) =
      interface :: objectPath :: method :: (arguments ++ [result])) :
    parse line busName = (Argument.ofFields arguments).map fun arguments ↦
      ⟨busName, .ofList interface, .ofList objectPath, .ofList method, arguments,
        .ofList result⟩ := by
  rw [parse_of_fields h, NameKind.read_of_isName hnames.interface,
    NameKind.read_of_isName hnames.objectPath, NameKind.read_of_isName hnames.method]
  cases Argument.ofFields arguments <;> rfl

/-- A line is parsed as its fields are read. -/
theorem parse_of_reads {outcome : Except ParseError CallRecord}
    (h : Reads busName (Text.fields fieldSeparator (Text.trim line.toList)) outcome) :
    parse line busName = outcome := by
  generalize hfields : Text.fields fieldSeparator (Text.trim line.toList) = fields at h
  cases h with
  | tooFew hfew =>
    unfold parse
    rw [hfields]
    split
    · simp only [List.length_cons] at hfew
      omega
    · rfl
  | interface hinterface =>
    rw [parse_of_fields hfields, NameKind.read_of_not_isName hinterface]
    rfl
  | objectPath hinterface hobjectPath =>
    rw [parse_of_fields hfields, NameKind.read_of_isName hinterface,
      NameKind.read_of_not_isName hobjectPath]
    rfl
  | method hinterface hobjectPath hmethod =>
    rw [parse_of_fields hfields, NameKind.read_of_isName hinterface,
      NameKind.read_of_isName hobjectPath, NameKind.read_of_not_isName hmethod]
    rfl
  | unpaired hnames hodd =>
    rw [parse_of_properNames hnames hfields, Argument.ofFields_of_odd hodd]
    rfl
  | @tag _ _ _ _ field value pairs others hnames hothers hfield =>
    have heven : Even (Argument.pairFields pairs ++ field :: value :: others).length := by
      rw [List.length_append]
      exact (Argument.even_length_pairFields pairs).add (hothers.add even_two)
    rw [parse_of_properNames hnames hfields, Argument.ofFields_of_even heven,
      Argument.ofPairs_append_of_length_ne_one pairs hfield]
    rfl
  | @record _ _ _ _ pairs hnames =>
    rw [parse_of_properNames hnames hfields,
      Argument.ofFields_of_even (Argument.even_length_pairFields pairs),
      Argument.ofPairs_pairFields]
    rfl

theorem exists_fields_eq {fields : List (List Char)} (h : 4 ≤ fields.length) :
    ∃ interface objectPath method arguments result,
      fields = interface :: objectPath :: method :: (arguments ++ [result]) := by
  rcases fields with _ | ⟨interface, _ | ⟨objectPath, _ | ⟨method, behind⟩⟩⟩
  · simp at h
  · simp at h
  · simp at h
  · have hpos : 0 < behind.length := by
      simp only [List.length_cons] at h
      omega
    have hne : behind ≠ [] := List.ne_nil_of_length_pos hpos
    exact ⟨interface, objectPath, method, behind.dropLast, behind.getLast hne,
      by rw [List.dropLast_append_getLast]⟩

/-- The order in which the faults are looked for leaves nothing out. -/
theorem exists_reads (busName : String) (fields : List (List Char)) :
    ∃ outcome, Reads busName fields outcome := by
  by_cases hfew : fields.length < 4
  · exact ⟨_, .tooFew hfew⟩
  obtain ⟨interface, objectPath, method, arguments, result, rfl⟩ :=
    exists_fields_eq (Nat.le_of_not_lt hfew)
  by_cases hinterface : NameKind.interface.IsName interface
  case neg => exact ⟨_, .interface hinterface⟩
  by_cases hobjectPath : NameKind.objectPath.IsName objectPath
  case neg => exact ⟨_, .objectPath hinterface hobjectPath⟩
  by_cases hmethod : NameKind.method.IsName method
  case neg => exact ⟨_, .method hinterface hobjectPath hmethod⟩
  have hnames : ProperNames interface objectPath method := ⟨hinterface, hobjectPath, hmethod⟩
  rcases Nat.even_or_odd arguments.length with heven | hodd
  · rcases Argument.exists_pairFields_or heven with
      ⟨pairs, rfl⟩ | ⟨pairs, field, value, others, rfl, hothers, hfield⟩
    · exact ⟨_, .record hnames⟩
    · exact ⟨_, .tag hnames hothers hfield⟩
  · exact ⟨_, .unpaired hnames hodd⟩

/-- A line is read as its fields say, a record or the first fault. The names in them are those that
the regular expressions describe. -/
theorem parse_eq_iff_reads :
    (∀ (kind : NameKind) (cs : List Char), cs ∈ kind.pattern ↔ kind.IsName cs) ∧
    ∀ (line busName : String) (outcome : Except ParseError CallRecord),
      parse line busName = outcome ↔
        Reads busName ((Text.trim line.toList).splitOn ';') outcome := by
  refine ⟨fun _ _ ↦ NameKind.mem_pattern_iff, fun line busName outcome ↦ ?_⟩
  rw [← Text.fields_eq_splitOn]
  constructor
  · rintro rfl
    obtain ⟨outcome, houtcome⟩ :=
      exists_reads busName (Text.fields fieldSeparator (Text.trim line.toList))
    rwa [parse_of_reads houtcome]
  · exact parse_of_reads

end CallRecord

end BusReplay
