/-!
# Exit status

A run that read every source succeeds, whatever became of the lines in them; one that could not
read a source ends in error; one that was called wrongly ends in a usage error and reads nothing.
A run that breaks off in the middle of generating a text is aborted.
-/

namespace BusReplay

inductive ExitStatus
  | success
  | error
  | usage
  | aborted
  deriving DecidableEq, Repr

namespace ExitStatus

def code : ExitStatus → Nat
  | success => 0
  | error => 1
  | usage => 2
  | aborted => 101

def name : ExitStatus → String
  | success => "Success"
  | error => "Error"
  | usage => "Usage"
  | aborted => "Aborted"

def worst (a b : ExitStatus) : ExitStatus := if a.code < b.code then b else a

end ExitStatus

end BusReplay
