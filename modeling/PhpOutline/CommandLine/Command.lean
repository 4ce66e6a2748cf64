import PhpOutline.Report.Record

/-! Commands: what the program can be asked to do, and how a request can be wrong. -/

namespace PhpOutline

/-- The two forms of a report. -/
inductive Format where
  /-- For a reader at a terminal. -/
  | pretty
  /-- For another program. -/
  | json
deriving DecidableEq, Repr

/-- The format that a word names. -/
def Format.ofText? : String → Option Format
  -- Case matters.
  | "pretty" => some .pretty
  | "json" => some .json
  | _ => none

/-- What the program can do. -/
inductive CommandName where
  | analyze
  | uses
  | tokens
  | locate
deriving DecidableEq, Repr

/-- The command that a word names. -/
def CommandName.ofText? : String → Option CommandName
  -- One command has two names.
  | "analyze" => some .analyze
  | "uses" => some .uses
  | "deps" => some .uses
  | "tokens" => some .tokens
  | "locate" => some .locate
  | _ => none

/-- What an operand stands for. -/
inductive OperandSort where
  /-- A path, which is never empty. -/
  | path
  | text
deriving DecidableEq, Repr

/-- The operands that a command needs. -/
def CommandName.operands : CommandName → List OperandSort
  -- All but one are paths.
  | .analyze => [.path]
  | .uses => [.path]
  | .tokens => [.path]
  | .locate => [.path, .text]

/-- A command with its operands. -/
inductive Command where
  /-- Report the outline of a file. -/
  | analyze (file : String)
  /-- Report what a file or the files of a folder import. -/
  | uses (path : String)
  /-- Report the tokens of a file. -/
  | tokens (file : String)
  /-- Report which file of a folder declares a class. -/
  | locate (folder className : String)
deriving DecidableEq, Repr

/-- The command with a name and operands, if their number is right. -/
def Command.ofOperands? : CommandName → List String → Option Command
  -- No operand is optional.
  | .analyze, [file] => some (.analyze file)
  | .uses, [path] => some (.uses path)
  | .tokens, [file] => some (.tokens file)
  | .locate, [folder, className] => some (.locate folder className)
  | _, _ => none

/-- A request to the program. -/
structure Invocation where
  /-- Where the settings are, if the user says so. -/
  settingsPath? : Option String
  format : Format
  /-- Whether every event is noted. -/
  verbose : Bool
  command : Command
deriving DecidableEq, Repr

/-- Why a request is not carried out. -/
inductive UsageError where
  /-- The user asks for help. -/
  | helpRequested
  /-- The user asks for the version. -/
  | versionRequested
  /-- There is no word at all. -/
  | nothingGiven
  /-- There are options but no command. -/
  | missingCommand
  /-- A word in the place of the command names none. -/
  | unknownCommand
  /-- An option is not known, or an operand is one too many. -/
  | unknownArgument
  /-- An option has no value, or an option or operand has a wrong one. -/
  | invalidValue
  /-- The command needs more operands. -/
  | missingOperand
  /-- An option is given twice. -/
  | repeatedOption
  /-- A switch is given a value. -/
  | unneededValue
deriving DecidableEq, Repr

/-- The exit code after a request that is not carried out. -/
def UsageError.exitCode : UsageError → Nat
  -- Requests for help and for the version are in order.
  | .helpRequested => 0
  | .versionRequested => 0
  | _ => 2

/-- What is printed when the user asks for the version. -/
def versionText : String :=
  -- The name of the program comes first.
  "tokenscope " ++ reportVersion ++ "\n"

/-- What is printed when the user asks for help. -/
def usageText : String :=
  -- Commands come first, then options.
  String.join <| List.map (· ++ "\n")
    ["Structural inspection of PHP source files", "",
     "Usage: tokenscope [OPTIONS] <COMMAND>", "",
     "Commands:",
     "  analyze <FILE>        Extract everything from one file",
     "  uses <PATH>           List the imports of a file or of every file in a directory",
     "  tokens <FILE>         Dump the tokens of a file",
     "  locate <DIR> <CLASS>  Find the file declaring a class", "",
     "Options:",
     "  -c, --config <CONFIG>  Path to config YAML file (default: auto-discover)",
     "  -f, --format <FORMAT>  Output format, pretty or json",
     "  -v, --verbose          Log debug output to stderr",
     "  -h, --help             Print help",
     "  -V, --version          Print version"]

end PhpOutline
