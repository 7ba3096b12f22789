import BusReplay.CommandLine.OptionKey
import BusReplay.Path
import BusReplay.Text.Terminal

/-!
# Help and version

The help comes in a short form, laid out in two columns of a hundred characters, and in a full
form with a paragraph for each option. Both name the program as it was called.
-/

namespace BusReplay.CommandLine

/-- The name of the program, for when it was called by none. -/
def defaultProgram : String := "dbus-reprogen"

def versionText : String := defaultProgram ++ " 0.1.0\n"

/-- The name in the usage line: the file name that the program was called by. -/
def usageName (commandLine : List String) : String :=
  match commandLine.head?.bind fun called ↦ Path.fileName? called.toList with
  | some name => .ofList name
  | none => defaultProgram

def usageLine (name : String) : String := "Usage: " ++ name ++ " [OPTIONS] [FILE]..."

def shortHelpLines : List String := [
    "",
    "Arguments:",
    "  [FILE]...  Paths to log files (\"-\" for stdin)",
    "",
    "Options:",
    "      --system                        Use system bus",
    "      --session                       Use session bus",
    "  -n, --name <NAME>                   Name of the bus to use when taking input from stdin",
    "  -t, --target <TARGET>               Target tool the reproducers are written for [default:",
    "                                      dbus-send] [possible values: dbus-send, gdbus]",
    "  -f, --filter <RESULT>...            Result types for which reproduction code will be generated",
    "                                      [default: Crash] [possible values: Crash, Success, \"Command",
    "                                      execution error\"]",
    "      --log-format <FORMAT>           Output format for diagnostics logging: json (JSON Lines) or",
    "                                      text (default) [possible values: text, json]",
    "      --debug                         Debug mode (verbose diagnostics on stderr)",
    "      --generate-completions <SHELL>  Generate shell completions [possible values: bash, zsh, fish,",
    "                                      power-shell, elvish]",
    "      --generate-manpage              Generate man page",
    "  -h, --help                          Print help (see more with '--help')",
    "  -V, --version                       Print version"]

def fullHelpLines : List String := [
    "",
    "Arguments:",
    "  [FILE]...",
    "          Paths to log files (\"-\" for stdin)",
    "",
    "Options:",
    "      --system",
    "          Use system bus",
    "",
    "      --session",
    "          Use session bus",
    "",
    "  -n, --name <NAME>",
    "          Name of the bus to use when taking input from stdin",
    "",
    "  -t, --target <TARGET>",
    "          Target tool the reproducers are written for",
    "",
    "          Possible values:",
    "          - dbus-send: `dbus-send --print-reply` with typed `type:value` arguments",
    "          - gdbus:     `gdbus call` with bare positional arguments",
    "          ",
    "          [default: dbus-send]",
    "",
    "  -f, --filter <RESULT>...",
    "          Result types for which reproduction code will be generated",
    "",
    "          Possible values:",
    "          - Crash:                   The called service crashed",
    "          - Success:                 The call returned normally",
    "          - Command execution error: The service failed to run a command it was told to run",
    "          ",
    "          [default: Crash]",
    "",
    "      --log-format <FORMAT>",
    "          Output format for diagnostics logging: json (JSON Lines) or text (default)",
    "",
    "          Possible values:",
    "          - text: Plain text output (default)",
    "          - json: JSON Lines format for parsing",
    "",
    "      --debug",
    "          Debug mode (verbose diagnostics on stderr)",
    "",
    "      --generate-completions <SHELL>",
    "          Generate shell completions",
    "          ",
    "          [possible values: bash, zsh, fish, power-shell, elvish]",
    "",
    "      --generate-manpage",
    "          Generate man page",
    "",
    "  -h, --help",
    "          Print help (see a summary with '-h')",
    "",
    "  -V, --version",
    "          Print version"]

def helpText (full : Bool) (name : String) : String :=
  let lines := "Generate shell reproducers for D-Bus calls recorded in fuzzer logs" :: "" ::
    usageLine (Text.Terminal.strip .written name) ::
      (if full then fullHelpLines else shortHelpLines)
  String.join (lines.map fun line ↦ line ++ "\n")

end BusReplay.CommandLine
