import BusReplay.Input.Account
import BusReplay.Run.Session
import Std.Time.Format

/-!
# The program

`World.run` decides what a run does. Here the world is read, the configuration first and then the
sources that the command line names, and the effects of the run are carried out in their order.
Output is flushed at every newline.
-/

namespace BusReplay

def IoError.ofSystem : IO.Error → IoError
  | .noFileOrDirectory _ _ _ => .notFound
  | .resourceVanished _ _ => .brokenPipe
  | .inappropriateType _ 20 _ => .notADirectory
  | .inappropriateType _ 21 _ | .inappropriateType none _ _ => .isADirectory
  | .resourceExhausted _ 28 _ => .noSpace
  | .invalidArgument _ 22 _ => .nulInName
  | .invalidArgument _ 36 _ => .nameTooLong
  | .permissionDenied _ code details | .inappropriateType _ code details
  | .resourceExhausted _ code details | .invalidArgument _ code details
  | .otherError code details | .hardwareFault code details | .timeExpired code details =>
    .other (details ++ " (os error " ++ toString code ++ ")")
  | e => .other (toString e)

def readSize : USize := 65536

partial def Stream.readAll (handle : IO.FS.Stream) (bytes : ByteArray) : IO Stream := do
  match ← (handle.read readSize).toBaseIO with
  | .error e => return ⟨bytes.toList, some (.ofSystem e)⟩
  | .ok chunk =>
    if chunk.isEmpty then return .ofBytes bytes.toList
    else Stream.readAll handle (bytes ++ chunk)

def Stream.ofPath (path : String) : IO (Except IoError Stream) := do
  match ← (IO.FS.Handle.mk path .read).toBaseIO with
  | .error e => return .error (.ofSystem e)
  | .ok handle => return .ok (← Stream.readAll (.ofHandle handle) .empty)

/-- The file system as far as it has been read. A path that failed for a reason of its own leads
somewhere; one that leads nowhere is absent. -/
def FileSystem.ofRead (read : List (String × Except IoError Stream)) : FileSystem where
  present path :=
    match read.lookup path with
    | some (.ok _) | some (.error (.other _)) => true
    | _ => false
  openFile path := (read.lookup path).getD (.error .notFound)

/-- The variables that a run looks at. -/
def variableNames : List String :=
  [Config.directoryVariable, "XDG_CONFIG_HOME", "HOME", Log.filterVariable, Log.noColorVariable]

/-- The home directory of the account that the program runs under. -/
def Account.readHome : IO (Option String) := do
  match ← (IO.FS.readFile "/proc/self/status").toBaseIO,
    ← (IO.FS.readFile "/etc/passwd").toBaseIO with
  | .ok status, .ok table => return (userOfStatus? status).bind (homeOf? table)
  | _, _ => return none

def World.read (args : List String) : IO World := do
  let called := (← IO.appPath).toString
  let values ← variableNames.filterMapM fun name ↦ do
    return (← IO.getEnv name).map (name, ·)
  let lookUp (name : String) := values.lookup name
  let accountHome ← Account.readHome
  let configFile := Config.fileIn (Config.directory lookUp accountHome)
  let config := (configFile, ← Stream.ofPath configFile)
  let world : World := {
    commandLine := called :: args
    environment := lookUp
    accountHome := accountHome
    files := .ofRead [config]
    stdin := .ofBytes []
    stdout := .unlimited
    terminal := ← (← IO.getStderr).isTty }
  let files ← world.sources.filterMapM fun
    | .stdin => return none
    | .file path => return some (path, ← Stream.ofPath path)
  let stdin ← if world.sources.any Source.isStdin then Stream.readAll (← IO.getStdin) .empty
    else pure (.ofBytes [])
  return { world with files := .ofRead (config :: files), stdin := stdin }

def timeStamp : IO String := do
  let now ← Std.Time.Timestamp.now
  return (Std.Time.DateTime.ofTimestampWithZone now .UTC).format
    "uuuu-MM-dd'T'HH:mm:ss.SSSSSS'Z'"

/-- Carry out one effect. A message that standard error does not take is lost. -/
def Effect.carryOut (settings : Log.Settings) : Effect → IO Unit
  | .output text => do
    let out ← IO.getStdout
    out.putStr text
    if text.toList.contains '\n' then out.flush
  | effect => do
    match effect.stderrLine? settings (← timeStamp) with
    | some line => discard ((← IO.getStderr).putStrLn line).toBaseIO
    | none => pure ()

/-- Carry out effects in order, up to the first that fails: the effects before it and its
failure. -/
def carryOutAll (settings : Log.Settings) :
    List Effect → List Effect → IO (Option (List Effect × IoError))
  | _, [] => return none
  | done, effect :: rest => do
    match ← (effect.carryOut settings).toBaseIO with
    | .ok () => carryOutAll settings (effect :: done) rest
    | .error e => return some (done.reverse, .ofSystem e)

end BusReplay

open BusReplay in
/-- Run the program. When the output stops taking writes, the run is decided once more for an
output with just that much room, and carried on from there. -/
def main (args : List String) : IO UInt32 := do
  let world ← World.read args
  let report := world.run
  match ← carryOutAll report.logging [] report.effects with
  | none => return report.status.code.toUInt32
  | some (done, fault) =>
    let report := { world with stdout := ⟨some (stdoutText done).utf8ByteSize, fault⟩ }.run
    let _ ← carryOutAll report.logging done (report.effects.drop done.length)
    return report.status.code.toUInt32
