import BusReplay.Profile.Tools
import BusReplay.Proofs.Record.Parser
import BusReplay.Proofs.Reproducer.Outcome

/-!
# Filtering before parsing

A line is filtered by the label behind its last separator, which is found without reading the
line as a record. The reference reads the record first and filters by the result in it; only
where there is no record it falls back on the last field. Both come to the same outcome on every
line, so no fault of a line with an unwanted label is ever reported.
-/

namespace BusReplay

def lastField (line : String) : String :=
  .ofList ((Text.fields fieldSeparator (Text.trim line.toList)).getLast
    (Text.fields_ne_nil fieldSeparator (Text.trim line.toList)))

/-- What becomes of a line that is read before it is filtered. -/
def Reproducer.parseFirst (r : Reproducer) (line busName : String) : Except RunError Outcome :=
  if Text.trim line.toList = [] then .ok .blank
  else
    match CallRecord.parse line busName with
    | .ok record =>
      if r.filter.accepts record.result then
        match r.profile.render record r.scope with
        | .ok command => .ok (.command command)
        | .error fault => .error (.format fault)
      else .ok .filtered
    | .error fault =>
      if r.filter.accepts (lastField line) then .error (.parse fault) else .ok .filtered

/-- The label of a line is its last field. -/
theorem resultLabel_eq_lastField (line : String) : resultLabel line = lastField line := by
  unfold resultLabel lastField
  rw [Text.getLast_fields (Text.isLastField_afterLast fieldSeparator (Text.trim line.toList))]

theorem isLastField_lastField (line : String) :
    Text.IsLastField fieldSeparator (Text.trim line.toList) (lastField line).toList := by
  rw [← resultLabel_eq_lastField, resultLabel, String.toList_ofList]
  exact Text.isLastField_afterLast fieldSeparator (Text.trim line.toList)

/-- The result of a record is the last field of its line. -/
theorem CallRecord.lastField_of_parse {line busName : String} {record : CallRecord}
    (h : parse line busName = .ok record) : lastField line = record.result := by
  obtain ⟨arguments, hfields, -⟩ := parse_eq_ok_iff.1 h
  apply String.toList_injective
  simp [lastField, hfields]

namespace Reproducer

variable {r : Reproducer} {line busName : String} {record : CallRecord}

theorem rerun_of_parse_eq_ok (h : CallRecord.parse line busName = .ok record) :
    r.rerun line busName = (r.profile.render record r.scope).mapError .format := by
  rw [rerun, h]
  rfl

theorem rerun_of_parse_eq_error {fault : ParseError}
    (h : CallRecord.parse line busName = .error fault) :
    r.rerun line busName = .error (.parse fault) := by
  rw [rerun, h]
  rfl

/-- An accepted line becomes what its record becomes. -/
theorem reproduce_of_parse (r : Reproducer) (h : CallRecord.parse line busName = .ok record) :
    r.reproduce line busName =
      if r.filter.accepts record.result then
        ((r.profile.render record r.scope).mapError .format).map .command
      else .ok .filtered := by
  have hblank : Text.trim line.toList ≠ [] := by
    intro hnil
    obtain ⟨_, hfields, -⟩ := CallRecord.parse_eq_ok_iff.1 h
    have hlength := congrArg List.length hfields
    simp [hnil, Text.fields] at hlength
  have hlabel : resultLabel line = record.result :=
    (resultLabel_eq_lastField line).trans (CallRecord.lastField_of_parse h)
  cases hwanted : r.filter.accepts record.result with
  | false => rw [reproduce_of_unwanted hblank (hlabel ▸ hwanted), if_neg (by simp)]
  | true =>
    rw [reproduce_of_wanted hblank (hlabel ▸ hwanted), rerun_of_parse_eq_ok h, if_pos rfl]

/-- A line is rejected for its command when it is wanted and its record cannot be rendered. -/
theorem reproduce_eq_format_error_iff {fault : FormatError} :
    r.reproduce line busName = .error (.format fault) ↔ ∃ record,
      CallRecord.parse line busName = .ok record ∧ r.filter.accepts record.result = true ∧
      r.profile.render record r.scope = .error fault := by
  constructor
  · intro h
    rcases rerun_eq_error_iff.1 (rerun_of_reproduce_eq_error h) with
      ⟨_, -, hfault⟩ | ⟨record, hparse, other, hrender, hfault⟩
    · cases hfault
    · obtain rfl := RunError.format.inj hfault
      refine ⟨record, hparse, ?_, hrender⟩
      by_contra hunwanted
      rw [reproduce_of_parse r hparse, if_neg hunwanted] at h
      cases h
  · rintro ⟨record, hparse, hwanted, hrender⟩
    rw [reproduce_of_parse r hparse, if_pos hwanted, hrender]
    rfl

/-- Filtering by the last field decides as filtering by the result does. -/
theorem reproduce_eq_parseFirst (r : Reproducer) (line busName : String) :
    r.reproduce line busName = r.parseFirst line busName ∧
      Text.IsLastField fieldSeparator (Text.trim line.toList) (lastField line).toList ∧
      (∀ record, CallRecord.parse line busName = .ok record → resultLabel line = record.result) ∧
      (r.filter.accepts (resultLabel line) = false →
        ∀ e, r.reproduce line busName ≠ .error e) := by
  refine ⟨?_, isLastField_lastField line, fun record hparse ↦ ?_, fun hunwanted e he ↦ ?_⟩
  · unfold parseFirst
    by_cases hblank : Text.trim line.toList = []
    · rw [if_pos hblank, reproduce_of_blank hblank]
    rw [if_neg hblank]
    -- With or without a record, both sides filter by the label that ends the line.
    cases hparse : CallRecord.parse line busName with
    | ok record =>
      have hlabel : resultLabel line = record.result :=
        (resultLabel_eq_lastField line).trans (CallRecord.lastField_of_parse hparse)
      dsimp only
      cases hwanted : r.filter.accepts record.result with
      | false => rw [reproduce_of_unwanted hblank (hlabel ▸ hwanted), if_neg (by simp)]
      | true =>
        rw [reproduce_of_wanted hblank (hlabel ▸ hwanted), rerun_of_parse_eq_ok hparse,
          if_pos rfl]
        cases r.profile.render record r.scope <;> rfl
    | error fault =>
      dsimp only
      rw [← resultLabel_eq_lastField]
      cases hwanted : r.filter.accepts (resultLabel line) with
      | false => rw [reproduce_of_unwanted hblank hwanted, if_neg (by simp)]
      | true =>
        rw [reproduce_of_wanted hblank hwanted, rerun_of_parse_eq_error hparse, if_pos rfl]
        rfl
  · exact (resultLabel_eq_lastField line).trans (CallRecord.lastField_of_parse hparse)
  · by_cases hblank : Text.trim line.toList = []
    · simp [reproduce_of_blank hblank] at he
    · simp [reproduce_of_unwanted hblank hunwanted] at he

/-- A line with a single field is its own label. -/
theorem reproduce_eq_parseFirst_single :
    CallRecord.parse "\t garbage \n" "a.b" = .error (.tooFewFields 1) ∧
      lastField "\t garbage \n" = "garbage" ∧
      reproduce ⟨.gdbus, .system, .onlyCrash⟩ "\t garbage \n" "a.b" = .ok .filtered ∧
      ∀ e, reproduce ⟨.gdbus, .system, .onlyCrash⟩ "\t garbage \n" "a.b" ≠ .error e := by
  have hagree := reproduce_eq_parseFirst ⟨.gdbus, .system, .onlyCrash⟩ "\t garbage \n" "a.b"
  refine ⟨by decide +kernel, by decide +kernel, ?_, hagree.2.2.2 (by decide +kernel)⟩
  rw [hagree.1]
  decide +kernel

end Reproducer

end BusReplay
