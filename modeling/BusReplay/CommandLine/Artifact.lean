import BusReplay.CommandLine.Help
import BusReplay.Input.IoError

/-!
# Texts generated from the options

Shell completions and a manual page are made from the table of options by generators that are not
part of the program. A run writes what they give it and looks no further into it.
-/

namespace BusReplay.CommandLine

structure Artifacts where
  completions : Shell → String
  manPage : String
  /-- The complaint of a generator that gives up because its completions cannot be written. -/
  complaint : IoError → String

/-- All spellings of all options, with their dashes. -/
def spellings : List String :=
  OptionKey.all.flatMap fun key ↦
    key.flag :: match key.letter? with
      | some letter => ["-" ++ letter.toString]
      | none => []

/-- What stands for the generated texts where no generator is at hand: the name of the program and
a list of its options. -/
def Artifacts.plain : Artifacts where
  completions _ := String.intercalate " " (defaultProgram :: spellings) ++ "\n"
  manPage := String.intercalate "\n" (defaultProgram :: spellings) ++ "\n"
  complaint e := "failed to write completion file: " ++ e.message

end BusReplay.CommandLine
