import BusReplay.Proofs.Record.Line
import BusReplay.Proofs.Reproducer.ParseFirst
import Mathlib.Logic.Relation

/-!
# Arguments that were not logged

A pair with the broken tag stands for an argument that the fuzzer failed to log, and its value is
whatever text got there. Such pairs may be put in wherever a pair can stand, and taken out again,
without a change to the record of the line. So two lines that differ only in the values of such
pairs have the same outcome.
-/

namespace BusReplay

open Relation (ReflTransGen)

/-! ## Lines with artifacts -/

/-- Whether a pair may follow a text: the three names of a line and whole pairs stand in it. -/
def EndsPairs (before : String) : Prop := ∃ k, before.toList.count ';' = 2 * k + 2

/-- Whether the second line is the first one with a broken pair put in. -/
def InsertsArtifact (line padded : String) : Prop :=
  ∃ before after junk : String, EndsPairs before ∧ ';' ∉ junk.toList ∧
    line = before ++ ";" ++ after ∧ padded = before ++ ";/;" ++ junk ++ ";" ++ after

/-- Whether the second line is the first one with another value in a broken pair. -/
def ReplacesArtifact (line other : String) : Prop :=
  ∃ before after junk value : String, EndsPairs before ∧ ';' ∉ junk.toList ∧ ';' ∉ value.toList ∧
    line = before ++ ";/;" ++ junk ++ ";" ++ after ∧
    other = before ++ ";/;" ++ value ++ ";" ++ after

/-- Lines that differ in the value of a broken pair come from the line without the pair. -/
theorem ReplacesArtifact.exists_inserts {line other : String} (h : ReplacesArtifact line other) :
    ∃ shorter, InsertsArtifact shorter line ∧ InsertsArtifact shorter other := by
  obtain ⟨before, after, junk, value, hends, hjunk, hvalue, hline, hother⟩ := h
  exact ⟨before ++ ";" ++ after, ⟨before, after, junk, hends, hjunk, rfl, hline⟩,
    ⟨before, after, value, hends, hvalue, rfl, hother⟩⟩

/-- The fields of a line with a broken pair put in are those of the line, with the tag and the value
of the pair between two pairs. -/
theorem InsertsArtifact.exists_fields {line padded : String} (h : InsertsArtifact line padded) :
    ∃ interface objectPath method pairs junk others result,
      pairs.length % 2 = 0 ∧
      Text.fields ';' (Text.trim line.toList) =
        interface :: objectPath :: method :: (pairs ++ others ++ [result]) ∧
      Text.fields ';' (Text.trim padded.toList) =
        interface :: objectPath :: method :: (pairs ++ ['/'] :: junk :: others ++ [result]) := by
  obtain ⟨before, after, junk, ⟨k, hcount⟩, hjunk, rfl, rfl⟩ := h
  have hblank : Text.isBlank ';' = false := by decide
  -- Trimming reaches neither the separators nor what stands between them.
  have hline : Text.trim (before ++ ";" ++ after).toList =
      Text.trimStart before.toList ++ ';' :: Text.trimEnd after.toList := by
    rw [← Text.trim_append_cons hblank]
    simp
  have hpadded : Text.trim (before ++ ";/;" ++ junk ++ ";" ++ after).toList =
      Text.trimStart before.toList ++ ';' :: (['/'] ++ ';' :: (junk.toList ++
        ';' :: Text.trimEnd after.toList)) := by
    rw [← Text.trimEnd_append_cons hblank, ← Text.trimEnd_append_cons hblank,
      ← Text.trim_append_cons hblank]
    simp
  have hfields : (Text.fields ';' (Text.trimStart before.toList)).length = 2 * k + 3 := by
    rw [Text.length_fields, Text.count_trimStart hblank, hcount]
  obtain ⟨others, result, hlast⟩ : ∃ others result,
      Text.fields ';' (Text.trimEnd after.toList) = others ++ [result] :=
    ⟨_, _, (List.dropLast_append_getLast (Text.fields_ne_nil ';' _)).symm⟩
  rw [hline, hpadded, Text.fields_append_cons, Text.fields_append_cons, Text.fields_append_cons,
    Text.fields_append_cons, Text.fields_of_notMem hjunk, hlast]
  match Text.fields ';' (Text.trimStart before.toList), hfields with
  | interface :: objectPath :: method :: pairs, hfields =>
    refine ⟨interface, objectPath, method, pairs, junk.toList, others, result, ?_, ?_, ?_⟩
    · simp only [List.length_cons] at hfields
      omega
    · simp
    · simp [Text.fields, Text.attach]

namespace Argument

/-- A broken pair among fields leaves no argument. -/
theorem ofPairs_insert {pairs : List (List Char)} (heven : pairs.length % 2 = 0)
    (junk : List Char) (others : List (List Char)) :
    ofPairs (pairs ++ ['/'] :: junk :: others) = ofPairs (pairs ++ others) := by
  induction pairs using ofPairs.induct with
  | case1 tag value rest ih =>
    rw [List.length_cons, List.length_cons] at heven
    rw [List.cons_append, List.cons_append, List.cons_append, List.cons_append, ofPairs, ofPairs,
      ih (by omega)]
  | case2 field value rest hfield =>
    rw [List.cons_append, List.cons_append, List.cons_append, List.cons_append, ofPairs, ofPairs]
    · exact hfield
    · exact hfield
  | case3 pairs hone htwo =>
    obtain rfl := eq_nil_of_even heven htwo
    rw [List.nil_append, List.nil_append, ofPairs]
    cases ofPairs others <;> rfl

theorem ofFields_insert_eq_ok_iff {pairs : List (List Char)} (heven : pairs.length % 2 = 0)
    (junk : List Char) (others : List (List Char)) {arguments : List Argument} :
    ofFields (pairs ++ ['/'] :: junk :: others) = .ok arguments ↔
      ofFields (pairs ++ others) = .ok arguments := by
  rw [ofFields_eq_ok_iff, ofFields_eq_ok_iff, ofPairs_insert heven]
  refine and_congr_left fun _ ↦ ?_
  simp only [List.length_append, List.length_cons]
  omega

end Argument

namespace CallRecord

variable {line other busName : String} {record : CallRecord}

/-- A line is accepted for the sake of its fields. -/
theorem parse_eq_ok_iff_of_fields {interface objectPath method result : List Char}
    {arguments : List (List Char)}
    (hfields : Text.fields fieldSeparator (Text.trim line.toList) =
      interface :: objectPath :: method :: (arguments ++ [result])) :
    parse line busName = .ok record ↔
      (interface = record.interface.toList ∧ objectPath = record.objectPath.toList ∧
        method = record.method.toList ∧ result = record.result.toList) ∧
      NameKind.interface.accepts interface = true ∧
      NameKind.objectPath.accepts objectPath = true ∧
      NameKind.method.accepts method = true ∧
      Argument.ofFields arguments = .ok record.arguments ∧ record.busName = busName := by
  rw [parse_eq_ok_iff, hfields]
  constructor
  · rintro ⟨others, heq, haccepts⟩
    simp only [List.cons.injEq] at heq
    obtain ⟨hinterface, hobjectPath, hmethod, htail⟩ := heq
    obtain ⟨rfl, hresult⟩ := List.append_inj' htail rfl
    rw [hinterface, hobjectPath, hmethod]
    exact ⟨⟨rfl, rfl, rfl, List.head_eq_of_cons_eq hresult⟩, haccepts⟩
  · rintro ⟨⟨rfl, rfl, rfl, rfl⟩, haccepts⟩
    exact ⟨arguments, rfl, haccepts⟩

/-- A broken pair more does not change the call that a line is read as. -/
theorem parse_eq_ok_iff_of_inserts (h : InsertsArtifact line other) :
    parse other busName = .ok record ↔ parse line busName = .ok record := by
  obtain ⟨interface, objectPath, method, pairs, junk, others, result, heven, hline, hother⟩ :=
    h.exists_fields
  rw [parse_eq_ok_iff_of_fields hline, parse_eq_ok_iff_of_fields hother,
    Argument.ofFields_insert_eq_ok_iff heven]

theorem parse_of_inserts (hpadded : ReflTransGen InsertsArtifact line other)
    (h : parse line busName = .ok record) : parse other busName = .ok record := by
  induction hpadded with
  | refl => exact h
  | tail _ hinserts ih => exact (parse_eq_ok_iff_of_inserts hinserts).2 ih

theorem parse_of_replaces (hother : ReflTransGen ReplacesArtifact line other)
    (h : parse line busName = .ok record) : parse other busName = .ok record := by
  induction hother with
  | refl => exact h
  | tail _ hreplaces ih =>
    obtain ⟨shorter, hbefore, hafter⟩ := hreplaces.exists_inserts
    exact (parse_eq_ok_iff_of_inserts hafter).2 ((parse_eq_ok_iff_of_inserts hbefore).1 ih)

end CallRecord

/-! ## Outcomes -/

namespace Reproducer

variable {line busName : String} {record : CallRecord}

/-- Broken pairs have no influence: putting any number of them into an accepted line leaves its
record and its outcome alone, and so does another value in any of them. -/
theorem reproduce_of_artifacts (h : CallRecord.parse line busName = .ok record) :
    (∀ padded, ReflTransGen InsertsArtifact line padded →
      CallRecord.parse padded busName = .ok record ∧
        ∀ r : Reproducer, r.reproduce padded busName = r.reproduce line busName) ∧
    ∀ other, ReflTransGen ReplacesArtifact line other →
      CallRecord.parse other busName = .ok record ∧
        ∀ r : Reproducer, r.reproduce other busName = r.reproduce line busName := by
  constructor
  · intro padded hpadded
    have hparse := CallRecord.parse_of_inserts hpadded h
    exact ⟨hparse, fun r ↦ (r.reproduce_of_parse hparse).trans (r.reproduce_of_parse h).symm⟩
  · intro other hother
    have hparse := CallRecord.parse_of_replaces hother h
    exact ⟨hparse, fun r ↦ (r.reproduce_of_parse hparse).trans (r.reproduce_of_parse h).symm⟩

/-- Shell syntax and blank characters in two broken pairs, in front of the first argument and behind
the last one, and another text in the first of them. -/
theorem reproduce_of_artifacts_shell :
    CallRecord.parse " a.b;/;M;i;1;Crash\n" "a.b" =
        .ok ⟨"a.b", "a.b", "/", "M", [⟨'i', "1"⟩], "Crash"⟩ ∧
      CallRecord.parse " a.b;/;M;/;$(id);i;1;/; \t;Crash\n" "a.b" =
        .ok ⟨"a.b", "a.b", "/", "M", [⟨'i', "1"⟩], "Crash"⟩ ∧
      ∀ r : Reproducer,
        r.reproduce " a.b;/;M;/;$(id);i;1;/; \t;Crash\n" "a.b" =
          r.reproduce " a.b;/;M;i;1;Crash\n" "a.b" ∧
        r.reproduce " a.b;/;M;/;/;i;1;/; \t;Crash\n" "a.b" =
          r.reproduce " a.b;/;M;/;$(id);i;1;/; \t;Crash\n" "a.b" := by
  have hparse : CallRecord.parse " a.b;/;M;i;1;Crash\n" "a.b" =
      .ok ⟨"a.b", "a.b", "/", "M", [⟨'i', "1"⟩], "Crash"⟩ := by decide +kernel
  have hfirst : InsertsArtifact " a.b;/;M;i;1;Crash\n" " a.b;/;M;/;$(id);i;1;Crash\n" :=
    ⟨" a.b;/;M", "i;1;Crash\n", "$(id)", ⟨0, by decide⟩, by decide, by decide, by decide⟩
  have hsecond : InsertsArtifact " a.b;/;M;/;$(id);i;1;Crash\n"
      " a.b;/;M;/;$(id);i;1;/; \t;Crash\n" :=
    ⟨" a.b;/;M;/;$(id);i;1", "Crash\n", " \t", ⟨2, by decide⟩, by decide, by decide, by decide⟩
  have hother : ReplacesArtifact " a.b;/;M;/;$(id);i;1;/; \t;Crash\n"
      " a.b;/;M;/;/;i;1;/; \t;Crash\n" :=
    ⟨" a.b;/;M", "i;1;/; \t;Crash\n", "$(id)", "/", ⟨0, by decide⟩, by decide, by decide, by decide,
      by decide⟩
  obtain ⟨hpadded, hsame⟩ :=
    (reproduce_of_artifacts hparse).1 _ ((ReflTransGen.single hfirst).tail hsecond)
  have hreplaced := (reproduce_of_artifacts hpadded).2 _ (.single hother)
  exact ⟨hparse, hpadded, fun r ↦ ⟨hsame r, hreplaced.2 r⟩⟩

end Reproducer

end BusReplay
