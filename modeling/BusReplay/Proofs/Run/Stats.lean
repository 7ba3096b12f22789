import BusReplay.Run.SourceRun
import Mathlib.Data.List.Basic

/-!
# Counting lines

The counts of a list of lines are the number of lines and how many of them became a command, were
filtered, or were rejected. Nothing but the blank lines goes into the first count alone.
-/

namespace BusReplay

namespace Stats

theorem add_assoc (a b c : Stats) : (a.add b).add c = a.add (b.add c) := by
  simp [add, Nat.add_assoc]

theorem add_zero (a : Stats) : a.add zero = a := rfl

theorem zero_add (a : Stats) : zero.add a = a := by
  simp [add, zero]

theorem foldl_add (a : Stats) (all : List Stats) : all.foldl add a = a.add (sum all) := by
  induction all generalizing a with
  | nil => rfl
  | cons b all ih => rw [sum, List.foldl_cons, List.foldl_cons, ih, ih, zero_add, add_assoc]

theorem sum_cons (a : Stats) (all : List Stats) : sum (a :: all) = a.add (sum all) := by
  rw [sum, List.foldl_cons, foldl_add, zero_add]

end Stats

/-! ## Outcomes -/

def command? : Except RunError Outcome → Option String
  | .ok (.command text) => some text
  | _ => none

theorem command?_eq_some_iff {outcome : Except RunError Outcome} {command : String} :
    command? outcome = some command ↔ outcome = .ok (.command command) := by
  rcases outcome with e | (text | _ | _) <;> simp [command?]

def rejection? : Except RunError Outcome → Option RunError
  | .error e => some e
  | .ok _ => none

namespace Stats

def ofOutcomes (outcomes : List (Except RunError Outcome)) : Stats where
  lines := outcomes.length
  emitted := (outcomes.filterMap command?).length
  filtered := outcomes.count (.ok .filtered)
  rejected := (outcomes.filterMap rejection?).length

theorem ofOutcomes_cons (outcome : Except RunError Outcome)
    (outcomes : List (Except RunError Outcome)) :
    ofOutcomes (outcome :: outcomes) = (ofOutcome outcome).add (ofOutcomes outcomes) := by
  rcases outcome with e | (text | _ | _) <;>
    simp [ofOutcomes, ofOutcome, add, List.filterMap_cons, command?, rejection?, Nat.add_comm]

theorem ofOutcomes_append (outcomes others : List (Except RunError Outcome)) :
    ofOutcomes (outcomes ++ others) = (ofOutcomes outcomes).add (ofOutcomes others) := by
  simp [ofOutcomes, add, List.filterMap_append]

theorem sum_map_ofOutcome (outcomes : List (Except RunError Outcome)) :
    sum (outcomes.map ofOutcome) = ofOutcomes outcomes := by
  induction outcomes with
  | nil => rfl
  | cons outcome outcomes ih => rw [List.map_cons, sum_cons, ih, ofOutcomes_cons]

/-- A line that is in no other count is blank. -/
theorem lines_ofOutcomes (outcomes : List (Except RunError Outcome)) :
    (ofOutcomes outcomes).lines = (ofOutcomes outcomes).emitted + (ofOutcomes outcomes).filtered +
      (ofOutcomes outcomes).rejected + outcomes.count (.ok .blank) := by
  induction outcomes with
  | nil => rfl
  | cons outcome outcomes ih =>
    rw [ofOutcomes_cons, List.count_cons]
    rcases outcome with e | (text | _ | _) <;> simp only [ofOutcome, add] <;> simp <;> omega

end Stats

end BusReplay
