import BusReplay.Profile.Rule
import BusReplay.Profile.Template
import BusReplay.Record.Basic

/-!
# Calling conventions

A profile is the calling convention of one tool: a header that names the bus, the destination,
the object and the method, and a table of rules, one for each type tag the tool can take. A
command is the filled header and a word for each argument, each of them followed by one space.
-/

namespace BusReplay

inductive BusScope
  | system
  | session
  deriving DecidableEq, Repr

namespace BusScope

def name : BusScope → String
  | system => "system"
  | session => "session"

def flag (scope : BusScope) : String := "--" ++ scope.name

end BusScope

/-- The calling convention of one tool. -/
structure Profile where
  target : Target
  /-- The command up to the arguments, with placeholders. -/
  header : String
  rules : List ArgumentRule
  deriving DecidableEq, Repr

namespace Profile

def tool (profile : Profile) : String := profile.target.tool

/-- The rule for a type tag, if the tool can take such arguments. -/
def rule? (profile : Profile) (tag : Char) : Option ArgumentRule :=
  profile.rules.find? fun rule ↦ rule.tag == tag

def renderArgument (profile : Profile) (argument : Argument) : Except FormatError String :=
  match profile.rule? argument.tag with
  | some rule => rule.render argument.value
  | none => .error (.unsupportedType argument.tag profile.tool)

/-- The words of the arguments, or the error of the first one that has none. -/
def renderArguments (profile : Profile) (arguments : List Argument) :
    Except FormatError (List String) :=
  arguments.mapM profile.renderArgument

/-- The header with the fields of a record filled in, one placeholder after the other. -/
def fillHeader (profile : Profile) (record : CallRecord) (scope : BusScope) : String :=
  Template.fill
    [("scope", scope.name), ("name", record.busName), ("path", record.objectPath),
      ("interface", record.interface), ("method", record.method)] profile.header

def render (profile : Profile) (record : CallRecord) (scope : BusScope) :
    Except FormatError String := do
  let words ← profile.renderArguments record.arguments
  return String.join ((profile.fillHeader record scope :: words).map fun word ↦ word ++ " ")

end Profile

end BusReplay
