import BusReplay.Log.Event
import BusReplay.Profile.Rule
import BusReplay.Record.Basic
import BusReplay.Text.Blank
import BusReplay.Text.Case
import BusReplay.Text.Quoted

/-!
# Closed sets of option values

Options such as the target take one of a few values, each with one spelling.
-/

namespace BusReplay

inductive Shell
  | bash
  | zsh
  | fish
  | powerShell
  | elvish
  deriving DecidableEq, Repr

namespace Shell

def all : List Shell := [bash, zsh, fish, powerShell, elvish]

def optionName : Shell → String
  | bash => "bash"
  | zsh => "zsh"
  | fish => "fish"
  | powerShell => "power-shell"
  | elvish => "elvish"

def name : Shell → String
  | bash => "Bash"
  | zsh => "Zsh"
  | fish => "Fish"
  | powerShell => "PowerShell"
  | elvish => "Elvish"

end Shell

namespace CommandLine

/-- The values of a closed set with their spellings, in the order they are listed in. -/
abbrev Choices (α : Type) := List (String × α)

namespace Choices

def ofNames {α : Type} (name : α → String) (all : List α) : Choices α :=
  all.map fun value ↦ (name value, value)

def target : Choices Target := ofNames Target.tool Target.all

def resultClass : Choices ResultClass := ofNames ResultClass.label ResultClass.all

def shell : Choices Shell := ofNames Shell.optionName Shell.all

def logFormat : Choices Log.Format := ofNames Log.Format.optionName Log.Format.all

def find {α : Type} (choices : Choices α) (text : String) : Option α :=
  (choices.find? fun choice ↦ choice.1 == text).map Prod.snd

/-- The value with a given spelling, where the case of ASCII letters does not count. -/
def findFolded {α : Type} (choices : Choices α) (text : String) : Option α :=
  (choices.find? fun choice ↦ Text.foldCase choice.1 == Text.foldCase text).map Prod.snd

/-- The spellings as they are listed: those with blank characters are quoted. -/
def listed {α : Type} (choices : Choices α) : List String :=
  choices.map fun (name, _) ↦
    if name.toList.any Text.isBlank then Text.Quoted.text name else name

end Choices

end CommandLine

end BusReplay
