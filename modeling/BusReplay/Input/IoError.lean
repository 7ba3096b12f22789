/-!
# Failures of the operating system

The ways in which opening, reading and writing can fail, with the words they are reported in.
-/

namespace BusReplay

inductive IoError
  | notFound
  | notADirectory
  | isADirectory
  | nameTooLong
  /-- A path with a NUL character in it. -/
  | nulInName
  /-- A file that has to be text and is not. -/
  | invalidText
  | noSpace
  | brokenPipe
  /-- Any other failure, by its description. -/
  | other (description : String)
  deriving DecidableEq, Repr

namespace IoError

def message : IoError → String
  | notFound => "No such file or directory (os error 2)"
  | notADirectory => "Not a directory (os error 20)"
  | isADirectory => "Is a directory (os error 21)"
  | nameTooLong => "File name too long (os error 36)"
  | nulInName => "file name contained an unexpected NUL byte"
  | invalidText => "stream did not contain valid UTF-8"
  | noSpace => "No space left on device (os error 28)"
  | brokenPipe => "Broken pipe (os error 32)"
  | other description => description

end IoError

end BusReplay
