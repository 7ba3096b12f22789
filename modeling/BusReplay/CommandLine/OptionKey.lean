import BusReplay.CommandLine.Choice
import BusReplay.Profile.Basic

/-!
# The options of the program

Every option has a long spelling, some have a letter. An option is a flag, takes one value, or
takes one value or more.
-/

namespace BusReplay.CommandLine

/-- The options, the two flags that select a bus being alike. -/
inductive OptionKey
  | scope (scope : BusScope)
  | name
  | target
  | filter
  | logFormat
  | debug
  | completions
  | manPage
  | help
  | version
  deriving DecidableEq, Repr

/-- How many values an occurrence of an option takes. -/
inductive Arity
  | flag
  | one
  | many
  deriving DecidableEq, Repr

namespace Arity

/-- The most values that one occurrence takes; without a number there is no limit. -/
def limit : Arity → Option Nat
  | flag => some 0
  | one => some 1
  | many => none

end Arity

namespace OptionKey

def all : List OptionKey :=
  [scope .system, scope .session, name, target, filter, logFormat, debug, completions, manPage,
    help, version]

/-- The long spelling, without its dashes. -/
def long : OptionKey → String
  | scope s => s.name
  | name => "name"
  | target => "target"
  | filter => "filter"
  | logFormat => "log-format"
  | debug => "debug"
  | completions => "generate-completions"
  | manPage => "generate-manpage"
  | help => "help"
  | version => "version"

def letter? : OptionKey → Option Char
  | name => some 'n'
  | target => some 't'
  | filter => some 'f'
  | help => some 'h'
  | version => some 'V'
  | _ => none

def arity : OptionKey → Arity
  | name | target | logFormat | completions => .one
  | filter => .many
  | _ => .flag

/-- What stands for a value in descriptions of the option. -/
def placeholder : OptionKey → String
  | name => " <NAME>"
  | target => " <TARGET>"
  | filter => " <RESULT>..."
  | logFormat => " <FORMAT>"
  | completions => " <SHELL>"
  | _ => ""

def flag (key : OptionKey) : String := "--" ++ key.long

/-- How messages name the option. -/
def label (key : OptionKey) : String := key.flag ++ key.placeholder

/-- The spellings of the values, for an option with a closed set of them. -/
def choices : OptionKey → List String
  | target => Choices.target.listed
  | filter => Choices.resultClass.listed
  | logFormat => Choices.logFormat.listed
  | completions => Choices.shell.listed
  | _ => []

def ofLong? (long : String) : Option OptionKey := all.find? fun key ↦ key.long == long

def ofLetter? (letter : Char) : Option OptionKey := all.find? fun key ↦ key.letter? == some letter

end OptionKey

end BusReplay.CommandLine
