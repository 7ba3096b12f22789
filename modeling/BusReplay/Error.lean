import BusReplay.Input.IoError
import BusReplay.Profile.Rule
import BusReplay.Record.Parser

/-!
# Errors of a run

The errors that a run reports. Those of a single line, which never change the exit status, are a
parse error or a format error; the others belong to a source, to the configuration or to the
output.
-/

namespace BusReplay

inductive RunError
  /-- Writing the output failed. -/
  | io (error : IoError)
  /-- Opening or reading a source failed. -/
  | source (name : String) (error : IoError)
  | config (description : String)
  /-- Standard input is a source, and no bus name was given for it. -/
  | missingStdinName
  | invalidBusName (name : String)
  | parse (error : ParseError)
  | format (error : FormatError)
  deriving DecidableEq, Repr

namespace RunError

def message : RunError → String
  | io error => "IO error: " ++ error.message
  | source name error => name ++ ": " ++ error.message
  | config description => "Config error: " ++ description
  | missingStdinName => "When taking input from stdin, you must specify bus name"
  | invalidBusName name => "invalid bus name '" ++ name ++ "'"
  | parse error => "Parse error: " ++ error.message
  | format error => error.message

end RunError

end BusReplay
