import BusReplay.CommandLine.OptionKey
import BusReplay.Text.Quoted

/-!
# Configured default options

Default options are put in front of the command line. The entries that follow an option which
takes values are attached to it one by one, so that each option is a single token. Entries that
belong to no option are set aside. A bus that the command line names replaces the configured one.
-/

namespace BusReplay.CommandLine

def isDashed (entry : String) : Bool := entry.toList.head? == some '-'

/-- The option that an entry spells, with nothing attached to it. -/
def OptionKey.ofSpelling? (entry : String) : Option OptionKey :=
  match entry.toList with
  | '-' :: '-' :: long => ofLong? (.ofList long)
  | ['-', letter] => ofLetter? letter
  | _ => none

/-- An option that the entries after it are values of. -/
structure OpenOption where
  key : OptionKey
  /-- How many values it still takes; without a number there is no limit. -/
  room : Option Nat
  deriving DecidableEq, Repr

namespace OpenOption

def ofEntry? (entry : String) : Option OpenOption :=
  match OptionKey.ofSpelling? entry with
  | some key => if key.arity = .flag then none else some ⟨key, key.arity.limit⟩
  | none => none

/-- Take one value: the token that it becomes, and the option after it. -/
def take? (o : OpenOption) (value : String) : Option (String × OpenOption) :=
  let token := o.key.flag ++ "=" ++ value
  match o.room with
  | none => some (token, o)
  | some 0 => none
  | some (room + 1) => some (token, ⟨o.key, some room⟩)

end OpenOption

/-- Default options, sorted into tokens for the command line and entries set aside. -/
structure Defaults where
  flags : List String
  positional : List String
  deriving DecidableEq, Repr

namespace Defaults

/-- Sort the entries that follow an open option, if one is open. -/
def sort : Option OpenOption → List String → Defaults
  | _, [] => ⟨[], []⟩
  | opened, entry :: entries =>
    if isDashed entry then
      match OpenOption.ofEntry? entry with
      | some next => sort (some next) entries
      | none =>
        let rest := sort none entries
        { rest with flags := entry :: rest.flags }
    else
      match opened.bind (·.take? entry) with
      | some (token, next) =>
        let rest := sort (some next) entries
        { rest with flags := token :: rest.flags }
      | none =>
        let rest := sort opened entries
        { rest with positional := entry :: rest.positional }

def ofEntries (entries : List String) : Defaults := sort none entries

def isScopeFlag (token : String) : Bool :=
  token == BusScope.system.flag || token == BusScope.session.flag

def namesScope (commandLine : List String) : Bool := (commandLine.drop 1).any isScopeFlag

/-- The flags that are put in front of a command line. -/
def flagsFor (defaults : Defaults) (commandLine : List String) : List String :=
  if namesScope commandLine then defaults.flags.filter fun flag ↦ !isScopeFlag flag
  else defaults.flags

/-- A command line with the default options in front of its own arguments. -/
def merge (defaults : Defaults) (commandLine : List String) : List String :=
  commandLine.take 1 ++ defaults.flagsFor commandLine ++ commandLine.drop 1

def positionalWarning (defaults : Defaults) : String :=
  "Positional arguments in default_options are ignored: " ++ Text.Quoted.texts defaults.positional

def positionalHint : String :=
  "Only flags (starting with -) and their values can be used in default_options."

end Defaults

end BusReplay.CommandLine
