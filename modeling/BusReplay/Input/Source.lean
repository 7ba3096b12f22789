import BusReplay.Error
import BusReplay.Input.Stream
import BusReplay.Path

/-!
# Log sources

A source is a log file or standard input. The fuzzer names a log file after the bus name it
fuzzed, so the last component of its path is the bus name of every call in it; standard input has
no such name and is given one.
-/

namespace BusReplay

inductive Source
  | stdin
  | file (path : String)
  deriving DecidableEq, Repr

/-- The characters of a bus name that can stand on a command line as it is. -/
def isBusNameChar (c : Char) : Bool :=
  c.isAlphanum || c == '_' || c == '.' || c == ':' || c == '-'

/-- A non-empty text of bus name characters. -/
def isBusName (cs : List Char) : Bool := !cs.isEmpty && cs.all isBusNameChar

def validateBusName (name : String) : Except RunError Unit :=
  if isBusName name.toList then .ok () else .error (.invalidBusName name)

namespace Source

/-- A path that has the same components as a single dash is standard input. -/
def ofPath (path : String) : Source :=
  if Path.components path.toList = [.name ['-']] then stdin else file path

def isStdin : Source → Bool
  | stdin => true
  | file _ => false

def displayName : Source → String
  | stdin => "<stdin>"
  | file path => path

/-- The name that a source claims for its bus, not yet validated. -/
def claimedName (source : Source) (stdinName : Option String) : Except RunError String :=
  match source with
  | stdin =>
    match stdinName with
    | some name => .ok name
    | none => .error .missingStdinName
  | file path =>
    match Path.fileName? path.toList with
    | some name => .ok (.ofList name)
    | none => .error (.invalidBusName path)

def busName (source : Source) (stdinName : Option String) : Except RunError String := do
  let name ← source.claimedName stdinName
  validateBusName name
  return name

end Source

end BusReplay
