import Credentials.CommandLine.Words
import Credentials.Role
import Credentials.Text.Quoted
import Credentials.Text.Terminal

/-!
# Usage of the command line

The commands, the options of each, the pages of help, and what is said about a command line that is
not understood: the usage of the command that did not understand it, where to find help, and what is
wrong, with a guess at what was meant where something comes close. Only the two faults of an
option's value are told without the usage.
-/

namespace Credentials.CommandLine

open Text

/-- A command; the program by itself is one. -/
inductive Command where
  | program
  | check
  | paths
  deriving DecidableEq, Repr

namespace Command

/-- The name of the program. -/
def programName : String := "node-secrets"

/-- The words that call a command. -/
def call : Command → String
  | program => programName
  | check => programName ++ " check"
  | paths => programName ++ " paths"

/-- The commands below the program, with their names. -/
def named : List (String × Command) := [("check", check), ("paths", paths)]

/-- The command below the program of a name. -/
def ofName? (name : String) : Option Command := named.lookup name

/-- The option that shows a page of help. -/
def helpOption : String := "--help"

/-- The option that names a role. -/
def roleOption : String := "--role"

/-- The option that names a document. -/
def fileOption : String := "--file"

/-- The option that applies the environment. -/
def envOption : String := "--env"

/-- The option that leaves the environment out. -/
def noEnvOption : String := "--no-env"

/-- The option for what the names of variables start with. -/
def envNameOption : String := "--env-prefix"

/-- The options of a command. -/
def options : Command → OptionTable
  | program => ⟨[helpOption, "--verbose"], [], ['v'], false⟩
  | check =>
    ⟨[helpOption, envOption, noEnvOption], [roleOption, fileOption, envNameOption], [], true⟩
  | paths => ⟨[helpOption], [roleOption], [], true⟩

/-- The line of usage. -/
def usage (c : Command) : String :=
  "Usage: " ++ c.call ++ match c with
    | program => " [OPTIONS] COMMAND [ARGS]..."
    | check | paths => " [OPTIONS]"

/-- A line as it is shown: free of control sequences, and ended by a line feed. -/
def shownLine (s : String) : String := withoutSequences s ++ "\n"

/-- Lines, each ended by a line feed. -/
def lines (ls : List String) : String := String.join (ls.map shownLine)

/-- The page of help below the line of usage. -/
def helpBody : Command → List String
  | program =>
    ["", "  Node secrets tools.", "", "Options:",
      "  -v, --verbose  Log loading and validation steps to stderr.",
      "  --help         Show this message and exit.", "", "Commands:",
      "  check  Merge secrets sources and validate them for a role.",
      "  paths  List every known secrets field path."]
  | check =>
    ["", "  Merge secrets sources and validate them for a role.", "",
      "  Prints a redacted dump on success, the full issue list otherwise.", "", "  Examples:", "",
      "      node-secrets check --role validator --file secrets.yaml", "",
      "      node-secrets check --role prover --file base.yaml --file local.yaml --env", "",
      "Options:",
      "  --role TEXT        Deployment role, e.g. main_node or validator.  [required]",
      "  --file FILE        YAML secrets file. Repeat to layer files; later files win.",
      "  --env / --no-env   Apply environment overrides last.",
      "  --env-prefix TEXT  Prefix for environment variable names.",
      "  --help             Show this message and exit."]
  | paths =>
    ["", "  List every known secrets field path.", "", "Options:",
      "  --role TEXT  Mark which paths this role requires.",
      "  --help       Show this message and exit."]

/-- The page of help. -/
def help (c : Command) : String := lines (c.usage :: c.helpBody)

end Command

/-- What is wrong with a command line. -/
inductive UsageFault where
  | option (fault : OptionFault)
  | missingOption (option : String)
  | missingCommand
  | unknownCommand (name : String) (similar : List String)
  | extraArguments (arguments : List String)
  | noSuchFile (path : String)
  | directoryForFile (path : String)
  | notARole (explanation : String)
  deriving DecidableEq, Repr

namespace UsageFault

/-- What is said about an option's value. -/
def aboutValue (option what : String) : String := "Invalid value for " ++ option ++ ": " ++ what

/-- A guess at what was meant. -/
def hint (similar : List String) : String :=
  match (Role.sorted similar).map quoted with
  | [] => ""
  | [s] => " Did you mean " ++ s ++ "?"
  | ss => " (Did you mean one of: " ++ ", ".intercalate ss ++ "?)"

/-- The wording of a fault. -/
def message : UsageFault → String
  | option (.unknown name similar) => "No such option " ++ quoted name ++ "." ++ hint similar
  | option (.needsValue name) => "Option " ++ quoted name ++ " requires an argument."
  | option (.takesNoValue name) => "Option " ++ quoted name ++ " does not take a value."
  | missingOption name => "Missing option " ++ quoted name ++ "."
  | missingCommand => "Missing command."
  | unknownCommand name similar => "No such command " ++ quoted name ++ "." ++ hint similar
  | extraArguments arguments =>
    "Got unexpected extra " ++ (if arguments.length = 1 then "argument" else "arguments") ++ " ("
      ++ " ".intercalate arguments ++ ")"
  | noSuchFile path =>
    aboutValue (quoted Command.fileOption) ("File " ++ quoted path ++ " does not exist.")
  | directoryForFile path =>
    aboutValue (quoted Command.fileOption) ("File " ++ quoted path ++ " is a directory.")
  | notARole explanation => aboutValue Command.roleOption explanation

/-- Whether the usage of the command is shown before the fault. -/
def showsUsage : UsageFault → Bool
  | option (.needsValue _) | option (.takesNoValue _) => false
  | _ => true

/-- The line that tells an error. -/
def errorLine (what : String) : String := Command.shownLine ("Error: " ++ what)

/-- The lines of usage before a fault. -/
def usageLines (c : Command) (f : UsageFault) : String :=
  if f.showsUsage then
    Command.lines
      [c.usage, "Try " ++ quoted (c.call ++ " " ++ Command.helpOption) ++ " for help.", ""]
  else ""

/-- Everything that is said about a fault that a command found. -/
def report (c : Command) (f : UsageFault) : String := f.usageLines c ++ errorLine f.message

end UsageFault

end Credentials.CommandLine
