import ScriptCore.Console.Arguments
import ScriptCore.Console.Prompt

/-!
# Help texts

What the program says about its own command line.
-/

namespace ScriptCore
namespace Usage

/-- The line about the settings file. -/
def configOption : String :=
  "      --config <FILE>  Runtime configuration file (TOML)"

/-- Lines about the other options that every subcommand has. -/
def sharedOptions : List String :=
  ["      --safe-mode      Refuse privileged operations (environment, shell, modules)",
    "  -v, --verbose        Debug logging to stderr (overridden by RUST_LOG)",
    "  -h, --help           Print help"]

/-- Help on the program. -/
def program : List String :=
  ["Ferrule - embeddable scripting runtime",
    "",
    "Usage: ferrule [OPTIONS] <COMMAND>",
    "",
    "Commands:",
    "  call       Call a registered function with literal arguments",
    "  functions  List registered functions and their prototypes",
    "  repl       Start the interactive shell",
    "  help       Print this message or the help of the given subcommand(s)",
    "",
    "Options:",
    configOption] ++ sharedOptions ++
  ["  -V, --version        Print version"]

/-- Help on a subcommand without arguments. -/
def bare (name purpose : String) : List String :=
  [purpose, "", "Usage: ferrule " ++ name ++ " [OPTIONS]", "", "Options:", configOption] ++
    sharedOptions

/-- Help on a topic. -/
def help (topic : Option Arguments.Subcommand) : List String :=
  match topic with
  | none => program
  | some .call =>
      ["Call a registered function with literal arguments",
        "",
        "Usage: ferrule call [OPTIONS] <NAME> [ARGS]...",
        "",
        "Arguments:",
        "  <NAME>     Function name",
        "  [ARGS]...  Arguments: JSON literals or bare words",
        "",
        "Options:",
        configOption,
        "      --json           Print the result as JSON"] ++ sharedOptions
  | some .functions => bare "functions" "List registered functions and their prototypes"
  | some .shell => bare "repl" "Start the interactive shell"
  | some .help =>
      ["Print this message or the help of the given subcommand(s)",
        "",
        "Usage: ferrule help [COMMAND]...",
        "",
        "Arguments:",
        "  [COMMAND]...  Print help for the subcommand(s)"]

/-- What is said when the arguments make no request. -/
def fault : List String :=
  ["error: the arguments are not understood",
    "",
    "Usage: ferrule [OPTIONS] <COMMAND>",
    "",
    "For more information, try '--help'."]

end Usage
end ScriptCore
