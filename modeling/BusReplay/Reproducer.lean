import BusReplay.Error
import BusReplay.Profile.Basic
import BusReplay.Text.Blank

/-!
# From log lines to commands

A reproducer turns one log line into at most one command. A line whose label is not wanted is
dropped before anything else in it is looked at, so faults in such lines are never reported.
-/

namespace BusReplay

inductive Outcome
  | command (text : String)
  /-- The label of the line is not wanted. -/
  | filtered
  /-- The line holds blank characters only. -/
  | blank
  deriving DecidableEq, Repr

/-- The choices of a run that decide what becomes of a line. -/
structure Reproducer where
  profile : Profile
  scope : BusScope
  filter : ResultFilter
  deriving DecidableEq, Repr

namespace Reproducer

/-- The record of a line, and the command that repeats it. -/
def rerun (r : Reproducer) (line busName : String) : Except RunError String := do
  let record ← (CallRecord.parse line busName).mapError .parse
  (r.profile.render record r.scope).mapError .format

def reproduce (r : Reproducer) (line busName : String) : Except RunError Outcome :=
  if (Text.trim line.toList).isEmpty then .ok .blank
  else if r.filter.accepts (resultLabel line) then (r.rerun line busName).map .command
  else .ok .filtered

end Reproducer

end BusReplay
