import BusReplay.Proofs.Except
import BusReplay.Proofs.Record.Parser
import BusReplay.Reproducer

/-!
# What becomes of a line

A line becomes a command when it is not blank, its label is wanted, its record can be read and the
record can be rendered. An error of a line is that of its record or that of its command.
-/

namespace BusReplay.Reproducer

variable {r : Reproducer} {line busName : String}

theorem rerun_eq_ok_iff {command : String} :
    r.rerun line busName = .ok command ↔ ∃ record, CallRecord.parse line busName = .ok record ∧
      r.profile.render record r.scope = .ok command := by
  simp only [rerun, bind_eq_ok_iff, mapError_eq_ok_iff]

/-- A line that cannot be rerun has a fault in its record or in its command. -/
theorem rerun_eq_error_iff {e : RunError} :
    r.rerun line busName = .error e ↔
      (∃ fault, CallRecord.parse line busName = .error fault ∧ .parse fault = e) ∨
      ∃ record, CallRecord.parse line busName = .ok record ∧
        ∃ fault, r.profile.render record r.scope = .error fault ∧ .format fault = e := by
  simp only [rerun, bind_eq_error_iff, mapError_eq_error_iff, mapError_eq_ok_iff]

theorem reproduce_of_blank (h : Text.trim line.toList = []) :
    r.reproduce line busName = .ok .blank := by
  rw [reproduce, if_pos (List.isEmpty_iff.2 h)]

theorem reproduce_of_unwanted (hblank : Text.trim line.toList ≠ [])
    (h : r.filter.accepts (resultLabel line) = false) :
    r.reproduce line busName = .ok .filtered := by
  rw [reproduce, if_neg (by simpa using hblank), if_neg (by simp [h])]

theorem reproduce_of_wanted (hblank : Text.trim line.toList ≠ [])
    (h : r.filter.accepts (resultLabel line) = true) :
    r.reproduce line busName = (r.rerun line busName).map .command := by
  rw [reproduce, if_neg (by simpa using hblank), if_pos h]

/-- Blank characters around a line do not change what becomes of it. -/
theorem reproduce_congr {other : String} (h : Text.trim line.toList = Text.trim other.toList)
    (r : Reproducer) (busName : String) : r.reproduce line busName = r.reproduce other busName := by
  unfold reproduce rerun
  rw [h, resultLabel_congr h, CallRecord.parse_congr h]

/-- Only a line that is rerun becomes something other than blank or filtered. -/
theorem reproduce_eq_rerun {outcome : Except RunError Outcome}
    (h : r.reproduce line busName = outcome) (hblank : outcome ≠ .ok .blank)
    (hfiltered : outcome ≠ .ok .filtered) : (r.rerun line busName).map .command = outcome := by
  by_cases hempty : Text.trim line.toList = []
  · exact absurd (h.symm.trans (reproduce_of_blank hempty)) hblank
  · cases hwanted : r.filter.accepts (resultLabel line) with
    | false => exact absurd (h.symm.trans (reproduce_of_unwanted hempty hwanted)) hfiltered
    | true => rw [← reproduce_of_wanted hempty hwanted, h]

/-- The command of a line repeats the call in it. -/
theorem rerun_of_reproduce_eq_command {command : String}
    (h : r.reproduce line busName = .ok (.command command)) :
    r.rerun line busName = .ok command := by
  obtain ⟨text, hrerun, htext⟩ := map_eq_ok_iff.1 (reproduce_eq_rerun h (by simp) (by simp))
  rw [hrerun, Outcome.command.inj htext]

theorem rerun_of_reproduce_eq_error {e : RunError} (h : r.reproduce line busName = .error e) :
    r.rerun line busName = .error e :=
  map_eq_error_iff.1 (reproduce_eq_rerun h (by simp) (by simp))

end BusReplay.Reproducer
