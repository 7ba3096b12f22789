import BusReplay.CommandLine.OptionKey
import BusReplay.Text.Terminal

/-!
# Command lines that are not carried out

A command line can ask for help or for the version, or it can be wrong. The report of a wrong one
is a single paragraph of text that is safe to show on a terminal.
-/

namespace BusReplay.CommandLine

/-- Why a command line gives no arguments to run with. -/
inductive Failure
  /-- Help was asked for, in full or in short. -/
  | help (full : Bool)
  | version
  | missingRequired (labels : List String)
  | conflict (first second : String)
  | missingValue (label : String) (choices : List String)
  | invalidValue (value label : String) (choices : List String)
  | unneededValue (value label : String)
  | unknown (spelling : String)
  deriving DecidableEq, Repr

/-- The text before the first empty line, and all of it if there is none. -/
def firstParagraph : List Char → List Char
  | '\n' :: '\n' :: _ => []
  | c :: cs => c :: firstParagraph cs
  | [] => []

namespace Failure

/-- The possible values on a line of their own, if they are a closed set. -/
def choiceLine (choices : List String) : String :=
  if choices.isEmpty then ""
  else "\n  [possible values: " ++ String.intercalate ", " choices ++ "]"

/-- Change the texts that come from the command line. -/
def mapTexts (change : String → String) : Failure → Failure
  | invalidValue value label choices => invalidValue (change value) label choices
  | unneededValue value label => unneededValue (change value) label
  | unknown spelling => unknown (change spelling)
  | failure => failure

/-- What is wrong; nothing is when help or the version was asked for. -/
def description : Failure → String
  | help _ => ""
  | version => ""
  | missingRequired labels =>
    "the following required arguments were not provided:" ++
      String.join (labels.map fun label ↦ "\n  " ++ label)
  | conflict first second => "the argument '" ++ first ++ "' cannot be used with '" ++ second ++ "'"
  | missingValue label choices =>
    "a value is required for '" ++ label ++ "' but none was supplied" ++ choiceLine choices
  | invalidValue value label choices =>
    "invalid value '" ++ value ++ "' for '" ++ label ++ "'" ++ choiceLine choices
  | unneededValue value label =>
    "unexpected value '" ++ value ++ "' for '" ++ label ++ "' found; no more were expected"
  | unknown spelling => "unexpected argument '" ++ spelling ++ "' found"

/-- Whether the command line asked for something that is not an error. -/
def isRequest : Failure → Bool
  | help _ => true
  | version => true
  | _ => false

/-- The report of a wrong command line, in which the texts from the command line are stripped of
controls. -/
def message (manner : Text.Terminal.Manner) (failure : Failure) : String :=
  if failure.isRequest then ""
  else
    let stripped := failure.mapTexts (Text.Terminal.strip manner)
    .ofList (firstParagraph ("error: " ++ stripped.description).toList)

end Failure

end BusReplay.CommandLine
