import BusReplay.Log.Filter

/-!
# How a run logs

The filter comes from the environment, and without a well-formed one there from the command line.
Colours are used in text lines unless the environment forbids them.
-/

namespace BusReplay.Log

/-- Which events are shown, and how. -/
structure Settings where
  filter : Filter
  format : Format
  colors : Bool
  deriving DecidableEq, Repr

def filterVariable : String := "DBUS_REPROGEN_LOG"

def noColorVariable : String := "NO_COLOR"

namespace Settings

/-- The settings of a run that has not set up logging yet. -/
def off : Settings := ⟨.nothing, .text, false⟩

def ofRun (environment : String → Option String) (format : Format) (debug : Bool) : Settings where
  filter :=
    match (environment filterVariable).bind Filter.ofText? with
    | some filter => filter
    | none => .upTo (if debug then .debug else .warn)
  format := format
  colors := (environment noColorVariable).getD "" == ""

def line? (settings : Settings) (time : String) (event : Event) : Option String :=
  if settings.filter.shows event then
    match settings.format with
    | .text => some (event.textLine settings.colors time)
    | .json => some (event.jsonLine time)
  else none

end Settings

end BusReplay.Log
