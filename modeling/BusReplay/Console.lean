/-!
# Where diagnostics go

What a program has to know about its standard error to write to it.
-/

namespace BusReplay

structure Console where
  /-- Whether standard error is a terminal. -/
  terminal : Bool
  /-- Whether colours are allowed at all. -/
  colors : Bool
  /-- The name of the program in its diagnostics. -/
  program : String
  deriving DecidableEq, Repr

namespace Console

/-- A warning, in yellow on a terminal that may show colours. -/
def warning (console : Console) (message : String) : String :=
  if console.colors && console.terminal then "\x1b[33mWarning: " ++ message ++ "\x1b[0m"
  else "Warning: " ++ message

end Console

end BusReplay
