import BusReplay.Record.Basic
import BusReplay.Record.Name
import BusReplay.Text.Blank
import BusReplay.Text.Fields

/-!
# Reading a log line

A line is trimmed and cut at semicolons into interface, object path, method, any number of pairs
of type tag and value, and a result label. The first fault found is the one that is reported, in
the order of the fields, except that the number of fields is checked before any name and the
pairing of the arguments before any tag.
-/

namespace BusReplay

inductive ParseError
  | tooFewFields (found : Nat)
  /-- The fields between method and result do not come in pairs. -/
  | unpairedArgument (found : Nat)
  | invalidTypeTag (field : String)
  | invalidName (kind : NameKind) (value : String)
  deriving DecidableEq, Repr

namespace ParseError

def message : ParseError → String
  | tooFewFields found =>
    "expected at least 4 fields (interface;path;method;result), found " ++ toString found
  | unpairedArgument found =>
    "argument fields must come in type;value pairs, found " ++ toString found ++ " fields"
  | invalidTypeTag field => "invalid type tag '" ++ field ++ "' (expected a single character)"
  | invalidName kind value => "invalid " ++ kind.label ++ " '" ++ value ++ "'"

end ParseError

def fieldSeparator : Char := ';'

/-- The result label of a line: all that follows its last separator. -/
def resultLabel (line : String) : String :=
  .ofList (Text.afterLast fieldSeparator (Text.trim line.toList))

def NameKind.read (kind : NameKind) (field : List Char) : Except ParseError String :=
  if kind.accepts field then .ok (.ofList field) else .error (.invalidName kind (.ofList field))

/-- The arguments of fields that come in pairs, without those that carry the broken tag. -/
def Argument.ofPairs : List (List Char) → Except ParseError (List Argument)
  | [tag] :: value :: rest => do
    let arguments ← ofPairs rest
    if tag = brokenTag then return arguments
    return ⟨tag, .ofList value⟩ :: arguments
  | field :: _ :: _ => .error (.invalidTypeTag (.ofList field))
  | _ => .ok []

/-- The arguments of the fields between method and result. -/
def Argument.ofFields (fields : List (List Char)) : Except ParseError (List Argument) :=
  if fields.length % 2 = 0 then ofPairs fields else .error (.unpairedArgument fields.length)

/-- The call that a line logs, sent to the given bus name. -/
def CallRecord.parse (line busName : String) : Except ParseError CallRecord :=
  match Text.fields fieldSeparator (Text.trim line.toList) with
  | interface :: objectPath :: method :: last :: rest => do
    let interface ← NameKind.interface.read interface
    let objectPath ← NameKind.objectPath.read objectPath
    let method ← NameKind.method.read method
    let arguments ← Argument.ofFields (last :: rest).dropLast
    return { busName, interface, objectPath, method, arguments
             result := .ofList ((last :: rest).getLast (by simp)) }
  | fields => .error (.tooFewFields fields.length)

end BusReplay
