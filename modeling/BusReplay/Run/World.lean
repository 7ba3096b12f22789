import BusReplay.CommandLine.Artifact
import BusReplay.Input.Stream
import BusReplay.Run.Execution

/-!
# The world around a run

All that a run depends on: how it was called, what it can read, and where it writes.
-/

namespace BusReplay

structure World where
  /-- The command line, starting with the name that the program was called by. -/
  commandLine : List String
  environment : String → Option String
  /-- The home directory of the account that the run belongs to. -/
  accountHome : Option String
  files : FileSystem
  stdin : Stream
  stdout : Sink
  /-- Whether standard error is a terminal. -/
  terminal : Bool
  /-- What the generators of completions and of the manual page give. -/
  artifacts : CommandLine.Artifacts := .plain

end BusReplay
