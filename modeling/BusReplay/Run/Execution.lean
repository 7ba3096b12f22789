import BusReplay.Input.IoError
import BusReplay.Log.Settings
import BusReplay.Status

/-!
# Plans and their execution

What a run is going to do is a list of steps. Executing it against an output turns each step into
an effect, in order, and stops at the first write that the output refuses. The plan does not
depend on the output, so a refused write changes only where the execution ends.
-/

namespace BusReplay

/-- Where commands are written. It takes whole writes as long as there is room for them. -/
structure Sink where
  /-- How many more bytes are taken; without a number there is room for all. -/
  room : Option Nat
  /-- How a write fails that there is no room for. -/
  fault : IoError
  deriving DecidableEq, Repr

namespace Sink

def unlimited : Sink := ⟨none, .noSpace⟩

/-- An output that refuses every write that is not empty. -/
def broken (fault : IoError) : Sink := ⟨some 0, fault⟩

def write (sink : Sink) (text : String) : Except IoError Sink :=
  match sink.room with
  | none => .ok sink
  | some room =>
    if text.utf8ByteSize ≤ room then .ok { sink with room := some (room - text.utf8ByteSize) }
    else .error sink.fault

end Sink

/-- Something that a run has done, as seen from outside. -/
inductive Effect
  /-- A write that the output took. -/
  | output (text : String)
  /-- A message on standard error, without the newline that ends it. -/
  | diagnostic (text : String)
  /-- A log event; whether it is shown depends on the settings. -/
  | event (event : Log.Event)
  deriving DecidableEq, Repr

namespace Effect

def outputText? : Effect → Option String
  | output text => some text
  | _ => none

def diagnosticText? : Effect → Option String
  | diagnostic text => some text
  | _ => none

def isEvent : Effect → Bool
  | event _ => true
  | _ => false

def stderrLine? (settings : Log.Settings) (time : String) : Effect → Option String
  | output _ => none
  | diagnostic text => some text
  | event e => settings.line? time e

end Effect

def stdoutText (effects : List Effect) : String :=
  String.join (effects.filterMap Effect.outputText?)

def stderrText (settings : Log.Settings) (time : String) (effects : List Effect) : String :=
  String.join ((effects.filterMap (Effect.stderrLine? settings time)).map fun line ↦ line ++ "\n")

inductive Step
  | write (text : String)
  | report (text : String)
  | log (event : Log.Event)
  /-- From here on the status is at least this one. -/
  | raise (status : ExitStatus)
  deriving DecidableEq, Repr

structure Execution where
  effects : List Effect
  status : ExitStatus
  /-- The sink with the room that is left in it. -/
  sink : Sink
  /-- The failure of the write that ended the execution early. -/
  failure : Option IoError
  deriving DecidableEq, Repr

namespace Execution

/-- Execute a plan after the effects `done`, the newest of which comes first. -/
def resume (done : List Effect) (status : ExitStatus) (sink : Sink) : List Step → Execution
  | [] => ⟨done.reverse, status, sink, none⟩
  | .write text :: steps =>
    match sink.write text with
    | .ok sink => resume (.output text :: done) status sink steps
    | .error e => ⟨done.reverse, status, sink, some e⟩
  | .report text :: steps => resume (.diagnostic text :: done) status sink steps
  | .log event :: steps => resume (.event event :: done) status sink steps
  | .raise other :: steps => resume done (status.worst other) sink steps

def ofSteps (sink : Sink) (steps : List Step) : Execution := resume [] .success sink steps

end Execution

end BusReplay
