import BusReplay.Error
import BusReplay.Input.Stream
import BusReplay.Path
import BusReplay.Toml.Document

/-!
# Configuration

The configuration is a TOML file. Of its table `defaults` the array `options` is used, and of that
the strings. A file that is not there, or that lacks these parts, configures nothing.
-/

namespace BusReplay

structure Config where
  /-- Options that are put in front of every command line. -/
  defaultOptions : List String
  deriving DecidableEq, Repr

namespace Config

def empty : Config := ⟨[]⟩

def optionsOf (document : Toml.Value) : List String :=
  match (document.get? "defaults").bind (·.get? "options") |>.bind (·.items?) with
  | some items => items.filterMap Toml.Value.text?
  | none => []

/-- The configuration that a text describes. What is wrong with an ill-formed text is not said. -/
def parse (text : String) : Except RunError Config :=
  match Toml.parse text with
  | some document => .ok ⟨optionsOf document⟩
  | none => .error (.config "Invalid config TOML")

def fileIn (directory : String) : String :=
  .ofList (Path.join directory.toList "config.toml".toList)

def load (files : FileSystem) (directory : String) : Except RunError Config :=
  let path := fileIn directory
  if files.present path then
    match files.readText path with
    | .ok text => parse text
    | .error e => .error (.config ("Failed to read config: " ++ e.message))
  else .ok empty

def directoryVariable : String := "DBUS_REPROGEN_CONFIG_DIR"

/-- The home directory of the user: what the environment says, else that of the account. -/
def homeDirectory? (environment : String → Option String) (accountHome : Option String) :
    Option String :=
  match environment "HOME" with
  | some home => if home = "" then accountHome else some home
  | none => accountHome

/-- The directory of the user's configuration files, which is usually below the home directory. -/
def userDirectory? (environment : String → Option String) (accountHome : Option String) :
    Option String :=
  match environment "XDG_CONFIG_HOME" with
  | some directory => if Path.isAbsolute directory.toList then some directory else fromHome
  | none => fromHome
where
  fromHome : Option String :=
    (homeDirectory? environment accountHome).map fun home ↦
      .ofList (Path.join home.toList ".config".toList)

def directory (environment : String → Option String) (accountHome : Option String) : String :=
  match environment directoryVariable with
  | some directory => directory
  | none =>
    match userDirectory? environment accountHome with
    | some directory => .ofList (Path.join directory.toList "dbus-reprogen".toList)
    | none => ".dbus-reprogen"

end Config

end BusReplay
