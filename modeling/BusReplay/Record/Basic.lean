/-!
# Logged calls

A record is one method call as the fuzzer logged it: where it went, what was called, the typed
arguments, and the label that classifies what happened.
-/

namespace BusReplay

/-- One typed argument; the value is kept as it was logged. -/
structure Argument where
  tag : Char
  value : String
  deriving DecidableEq, Repr

/-- The type tag of an argument that the fuzzer failed to log. Such arguments are left out. -/
def Argument.brokenTag : Char := '/'

structure CallRecord where
  busName : String
  interface : String
  objectPath : String
  method : String
  arguments : List Argument
  /-- The label at the end of the line. -/
  result : String
  deriving DecidableEq, Repr

/-- The labels that the fuzzer writes at the end of a line. -/
inductive ResultClass
  | crash
  | success
  | commandExecutionError
  deriving DecidableEq, Repr

namespace ResultClass

def all : List ResultClass := [crash, success, commandExecutionError]

def label : ResultClass → String
  | crash => "Crash"
  | success => "Success"
  | commandExecutionError => "Command execution error"

end ResultClass

/-- The result classes that commands are wanted for: no class twice, in the order of their first
mention. -/
structure ResultFilter where
  classes : List ResultClass
  deriving DecidableEq, Repr

namespace ResultFilter

def ofList (classes : List ResultClass) : ResultFilter :=
  ⟨classes.foldl (fun seen c ↦ if c ∈ seen then seen else seen ++ [c]) []⟩

/-- The filter of a run that names no class. -/
def onlyCrash : ResultFilter := ofList [.crash]

/-- A label is wanted when it is the label of a wanted class, character by character. -/
def accepts (filter : ResultFilter) (label : String) : Bool :=
  filter.classes.any fun c ↦ c.label == label

end ResultFilter

end BusReplay
