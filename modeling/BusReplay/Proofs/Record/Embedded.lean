import BusReplay.Proofs.Record.Grammar

/-!
# Separators in values

The fuzzer joins the fields of a call as they are, so a separator in a value cuts the value in two,
and what stands behind it is read one place further on. An odd number of such separators leaves a
field without its partner. An even number of them puts parts of values in the places of tags, and
only where all of these are single characters is the line read as a call.
-/

namespace BusReplay

/-- A call as it is logged, with any texts for the tags and values of its arguments. -/
structure LoggedCall where
  interface : String
  objectPath : String
  method : String
  arguments : List (String × String)
  result : String
  deriving DecidableEq, Repr

namespace LoggedCall

def line (call : LoggedCall) : String :=
  String.intercalate ";" (call.interface :: call.objectPath :: call.method ::
    (call.arguments.flatMap fun argument ↦ [argument.1, argument.2]) ++ [call.result])

/-- How many separators the values hold. -/
def embedded (call : LoggedCall) : Nat :=
  (call.arguments.map fun argument ↦ argument.2.toList.count ';').sum

/-- Separators stand nowhere but in values, the names are proper, and the result does not end in a
blank character. -/
structure IsFramed (call : LoggedCall) : Prop where
  names : ProperNames call.interface.toList call.objectPath.toList call.method.toList
  tags : ∀ argument ∈ call.arguments, ';' ∉ argument.1.toList
  result : ';' ∉ call.result.toList
  ending : ∀ c ∈ call.result.toList.getLast?, Text.isBlank c = false

end LoggedCall

/-! ## Places of tags -/

def firstOfPairs {α : Type} : List α → List α
  | first :: _ :: rest => first :: firstOfPairs rest
  | _ => []

/-- The fields in the places of tags: every other one between the names and the result. -/
def tagFields (line : String) : List (List Char) :=
  firstOfPairs ((line.toList.splitOn ';').drop 3).dropLast

theorem firstOfPairs_pairFields_append (pairs : List Argument) (rest : List (List Char)) :
    firstOfPairs (Argument.pairFields pairs ++ rest) =
      (pairs.map fun pair ↦ [pair.tag]) ++ firstOfPairs rest := by
  induction pairs with
  | nil => rfl
  | cons pair pairs ih =>
    rw [Argument.pairFields_cons, List.cons_append, List.cons_append, firstOfPairs, ih,
      List.map_cons, List.cons_append]

theorem firstOfPairs_pairFields (pairs : List Argument) :
    firstOfPairs (Argument.pairFields pairs) = pairs.map fun pair ↦ [pair.tag] := by
  simpa [firstOfPairs] using firstOfPairs_pairFields_append pairs []

/-- Fields that come in pairs are arguments if all their tags are single characters, and if not, the
first that is none is reported. -/
theorem Argument.ofFields_cases {fields : List (List Char)} (heven : Even fields.length) :
    ((∀ field ∈ firstOfPairs fields, field.length = 1) ∧
      ∃ arguments, ofFields fields = .ok arguments) ∨
    ∃ field, (firstOfPairs fields).find? (fun field ↦ field.length ≠ 1) = some field ∧
      ofFields fields = .error (.invalidTypeTag (.ofList field)) := by
  have htags (pairs : List Argument) :
      ∀ field ∈ pairs.map fun pair ↦ [pair.tag], field.length = 1 := by
    simp
  rw [ofFields_of_even heven]
  rcases exists_pairFields_or heven with
    ⟨pairs, rfl⟩ | ⟨pairs, field, value, others, rfl, -, hfield⟩
  · left
    rw [firstOfPairs_pairFields]
    exact ⟨htags pairs, _, ofPairs_pairFields pairs⟩
  · right
    refine ⟨field, ?_, ofPairs_append_of_length_ne_one pairs hfield value others⟩
    have hnone : (pairs.map fun pair ↦ [pair.tag]).find? (fun field ↦ field.length ≠ 1) = none :=
      List.find?_eq_none.2 fun tag htag ↦ by simpa using htags pairs tag htag
    rw [firstOfPairs_pairFields_append, firstOfPairs, List.find?_append, hnone, Option.none_or,
      List.find?_cons_of_pos (by simpa using hfield)]

namespace LoggedCall

variable {call : LoggedCall}

/-! ## Fields of a line -/

/-- The fields between the method and the result. -/
def argumentFields (call : LoggedCall) : List (List Char) :=
  call.arguments.flatMap fun argument ↦ argument.1.toList :: Text.fields ';' argument.2.toList

theorem toList_line (call : LoggedCall) :
    call.line.toList = [';'].intercalate (call.interface.toList :: call.objectPath.toList ::
      call.method.toList :: ((call.arguments.flatMap fun argument ↦
        [argument.1.toList, argument.2.toList]) ++ [call.result.toList])) := by
  rw [line, String.toList_intercalate, List.map_append, List.map_cons, List.map_cons, List.map_cons,
    List.map_flatMap]
  rfl

/-- Every separator in a value makes one more field. -/
theorem length_argumentFields (call : LoggedCall) :
    call.argumentFields.length = 2 * call.arguments.length + call.embedded := by
  unfold argumentFields embedded
  induction call.arguments with
  | nil => rfl
  | cons argument arguments ih =>
    rw [List.flatMap_cons, List.length_append, ih, List.length_cons, Text.length_fields,
      List.map_cons, List.sum_cons, List.length_cons]
    omega

namespace IsFramed

theorem trim_line (h : call.IsFramed) : Text.trim call.line.toList = call.line.toList := by
  rw [toList_line]
  exact CallRecord.trim_intercalate (NameKind.accepts_iff_isName.2 h.names.interface) h.ending
    (call.objectPath.toList :: call.method.toList :: _)

theorem fields_line (h : call.IsFramed) :
    Text.fields ';' call.line.toList =
      call.interface.toList :: call.objectPath.toList :: call.method.toList ::
        (call.argumentFields ++ [call.result.toList]) := by
  have hname {kind : NameKind} {cs : List Char} (hcs : kind.IsName cs) :
      Text.fields ';' cs = [cs] :=
    Text.fields_of_notMem (kind.separator_notMem (NameKind.accepts_iff_isName.2 hcs))
  have harguments : (call.arguments.flatMap fun argument ↦
      [argument.1.toList, argument.2.toList]).flatMap (Text.fields ';') = call.argumentFields := by
    rw [List.flatMap_assoc, argumentFields]
    refine List.flatMap_congr fun argument hargument ↦ ?_
    rw [List.flatMap_cons, Text.fields_of_notMem (h.tags argument hargument)]
    simp
  rw [toList_line, Text.fields_intercalate_eq_flatMap, List.flatMap_cons, List.flatMap_cons,
    List.flatMap_cons, List.flatMap_append, harguments, hname h.names.interface,
    hname h.names.objectPath, hname h.names.method, List.flatMap_singleton,
    Text.fields_of_notMem h.result]
  rfl

theorem tagFields_line (h : call.IsFramed) :
    tagFields call.line = firstOfPairs call.argumentFields := by
  rw [tagFields, ← Text.fields_eq_splitOn, h.fields_line]
  simp

/-- The number of separators in the values decides whether the fields come in pairs, and if they
do, the fields that have come to stand in the places of tags decide what the line is read as. -/
theorem parse_joined_line (h : call.IsFramed) (busName : String) :
    (Odd call.embedded → CallRecord.parse call.line busName =
      .error (.unpairedArgument (2 * call.arguments.length + call.embedded))) ∧
    (Even call.embedded →
      ((∃ record, CallRecord.parse call.line busName = .ok record) ↔
        ∀ field ∈ tagFields call.line, field.length = 1) ∧
      ∀ field, (tagFields call.line).find? (fun field ↦ field.length ≠ 1) = some field →
        CallRecord.parse call.line busName = .error (.invalidTypeTag (.ofList field))) := by
  have hparse : CallRecord.parse call.line busName = _ :=
    CallRecord.parse_of_properNames h.names
      ((congrArg (Text.fields ';') h.trim_line).trans h.fields_line)
  have hlength := call.length_argumentFields
  rw [hparse, h.tagFields_line]
  refine ⟨fun hodd ↦ ?_, fun heven ↦ ?_⟩
  · have hunpaired : Odd call.argumentFields.length := by
      rw [hlength]
      exact (even_two_mul _).add_odd hodd
    rw [Argument.ofFields_of_odd hunpaired, hlength]
    rfl
  · have hpaired : Even call.argumentFields.length := by
      rw [hlength]
      exact (even_two_mul _).add heven
    rcases Argument.ofFields_cases hpaired with
      ⟨hsingle, arguments, harguments⟩ | ⟨first, hfirst, herror⟩
    · rw [harguments]
      refine ⟨⟨fun _ ↦ hsingle, fun _ ↦ ⟨_, rfl⟩⟩, fun field hfield ↦ ?_⟩
      have hlong : field.length ≠ 1 := by simpa using List.find?_some hfield
      exact absurd (hsingle field (List.mem_of_find?_eq_some hfield)) hlong
    · have hlong : first.length ≠ 1 := by simpa using List.find?_some hfirst
      rw [herror]
      refine ⟨⟨fun ⟨_, hok⟩ ↦ (nomatch hok), fun hsingle ↦ ?_⟩, fun field hfield ↦ ?_⟩
      · exact absurd (hsingle first (List.mem_of_find?_eq_some hfirst)) hlong
      · rw [Option.some.inj (hfirst.symm.trans hfield)]
        rfl

/-- One separator in a value; two, the second of which brings a part of the value to the place of a
tag; and two that let a value be read as two arguments. -/
theorem parse_joined_line_shifted :
    let call arguments : LoggedCall := ⟨"a.B", "/x", "M", arguments, "Crash"⟩
    CallRecord.parse (call [("s", "61;62")]).line ":1.2" = .error (.unpairedArgument 3) ∧
      CallRecord.parse (call [("s", "61;62;63"), ("i", "1")]).line ":1.2" =
        .error (.invalidTypeTag "62") ∧
      ∃ record, CallRecord.parse (call [("s", "61;i;2")]).line ":1.2" = .ok record := by
  intro call
  have hnames : ProperNames "a.B".toList "/x".toList "M".toList :=
    ⟨NameKind.accepts_iff_isName.1 (by decide), NameKind.accepts_iff_isName.1 (by decide),
      NameKind.accepts_iff_isName.1 (by decide)⟩
  have hresult : ';' ∉ "Crash".toList := by decide
  have hlast : "Crash".toList.getLast? = some 'h' := by decide
  have hending : ∀ c ∈ "Crash".toList.getLast?, Text.isBlank c = false := by
    intro c hc
    obtain rfl : 'h' = c := Option.some.inj (hlast.symm.trans hc)
    decide
  have hframed (arguments : List (String × String))
      (htags : ∀ argument ∈ arguments, ';' ∉ argument.1.toList) : (call arguments).IsFramed :=
    ⟨hnames, htags, hresult, hending⟩
  have hodd := (parse_joined_line (hframed [("s", "61;62")] (by decide)) ":1.2").1 (by decide)
  have hlong := (parse_joined_line (hframed [("s", "61;62;63"), ("i", "1")] (by decide)) ":1.2").2
    (by decide)
  have hread := (parse_joined_line (hframed [("s", "61;i;2")] (by decide)) ":1.2").2 (by decide)
  exact ⟨hodd, hlong.2 "62".toList (by decide +kernel), hread.1.2 (by decide +kernel)⟩

end IsFramed

end LoggedCall

end BusReplay
