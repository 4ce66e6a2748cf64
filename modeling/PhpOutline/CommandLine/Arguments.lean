import PhpOutline.CommandLine.Command

/-! Arguments: the words of a command line, read into a request. -/

namespace PhpOutline

/-- Options that take a value. -/
inductive OptionName where
  | settings
  | format
deriving DecidableEq, Repr

/-- Options that take no value. -/
inductive Switch where
  | help
  | version
  | verbose
deriving DecidableEq, Repr

/-- What a word with hyphens in front names. -/
inductive Flag where
  | option (name : OptionName)
  | switch (name : Switch)
deriving DecidableEq, Repr

/-- Where a word stands. -/
inductive Place where
  /-- In front of the command. -/
  | front
  /-- Behind the command. -/
  | behind
deriving DecidableEq, Repr

/-- The version, which can only be asked for in front of the command. -/
def versionFlag? : Place → Option Flag
  -- A command has no version of its own.
  | .front => some (.switch .version)
  | .behind => none

/-- The flag that a word after two hyphens names. -/
def Flag.ofLong? (place : Place) : String → Option Flag
  -- Words are never shortened.
  | "config" => some (.option .settings)
  | "format" => some (.option .format)
  | "verbose" => some (.switch .verbose)
  | "help" => some (.switch .help)
  | "version" => versionFlag? place
  | _ => none

/-- The flag that a letter after one hyphen names. -/
def Flag.ofShort? (place : Place) : Char → Option Flag
  -- Case matters.
  | 'c' => some (.option .settings)
  | 'f' => some (.option .format)
  | 'v' => some (.switch .verbose)
  | 'h' => some (.switch .help)
  | 'V' => versionFlag? place
  | _ => none

/-- What has been read but not yet accepted. -/
inductive Pending where
  /-- An option, whose value may still have to come. -/
  | option (name : OptionName) (value? : Option String)
  | operand (sort : OperandSort) (value : String)
deriving DecidableEq, Repr

/-- What has been read of the words at one place. -/
structure Arguments where
  settingsPath? : Option String := none
  format? : Option Format := none
  verbose : Bool := false
  operands : List String := []
  /-- What was read last is only accepted when something else comes, or at the end. -/
  pending? : Option Pending := none
deriving DecidableEq, Repr

/-- Whether nothing has been accepted. -/
def Arguments.isUntouched (arguments : Arguments) : Bool :=
  -- Any option and any operand counts.
  arguments.settingsPath?.isNone && arguments.format?.isNone && !arguments.verbose
    && arguments.operands.isEmpty

/-- Whether the next word is the value of an option. -/
def Arguments.awaitsValue (arguments : Arguments) : Bool :=
  -- An option is read before its value.
  match arguments.pending? with
  | some (.option _ none) => true
  | _ => false

/-- Accepts an option with its value. -/
def Arguments.acceptOption (arguments : Arguments) (name : OptionName) (value : String) :
    Except UsageError Arguments :=
  -- That an option comes twice is found before its value is looked at.
  match name with
  | .settings =>
    if arguments.settingsPath?.isSome then .error .repeatedOption
    else if value.isEmpty then .error .invalidValue
    else .ok { arguments with settingsPath? := some value }
  | .format =>
    if arguments.format?.isSome then .error .repeatedOption
    else
      match Format.ofText? value with
      | some format => .ok { arguments with format? := some format }
      | none => .error .invalidValue

/-- Accepts an operand. -/
def Arguments.acceptOperand (arguments : Arguments) (sort : OperandSort) (value : String) :
    Except UsageError Arguments :=
  -- Only paths can be wrong.
  if sort == .path && value.isEmpty then .error .invalidValue
  else .ok { arguments with operands := arguments.operands ++ [value] }

/-- Accepts what is pending. -/
def Arguments.settle (arguments : Arguments) : Except UsageError Arguments :=
  -- An option whose value never came is an error.
  let settled := { arguments with pending? := none }
  match arguments.pending? with
  | none => .ok settled
  | some (.option _ none) => .error .invalidValue
  | some (.option name (some value)) => settled.acceptOption name value
  | some (.operand sort value) => settled.acceptOperand sort value

/-- Reads a switch. -/
def Arguments.readSwitch (arguments : Arguments) (name : Switch) : Except UsageError Arguments := do
  -- What is pending may be wrong, and then help is not given.
  let settled ← arguments.settle
  match name with
  | .help => .error .helpRequested
  | .version => .error .versionRequested
  | .verbose =>
    if settled.verbose then .error .repeatedOption else .ok { settled with verbose := true }

/-- Reads an option whose value comes with the next word. -/
def Arguments.readOption (arguments : Arguments) (name : OptionName) :
    Except UsageError Arguments := do
  -- The option is pending until then.
  return { ← arguments.settle with pending? := some (.option name none) }

/-- Reads an option that has its value in the same word. -/
def Arguments.readOptionWith (arguments : Arguments) (name : OptionName) (value : String) :
    Except UsageError Arguments := do
  -- Such an option is accepted at once.
  (← arguments.settle).acceptOption name value

/-- Reads a word that started with two hyphens. -/
def Arguments.readLong (arguments : Arguments) (place : Place) (letters : List Char) :
    Except UsageError Arguments :=
  -- A value may follow an equals sign.
  let name := String.ofList (letters.takeWhile (· != '='))
  let value? := match letters.dropWhile (· != '=') with
    | _ :: value => some (String.ofList value)
    | [] => none
  match Flag.ofLong? place name, value? with
  | none, _ => .error .unknownArgument
  | some (.option option), some value => arguments.readOptionWith option value
  | some (.option option), none => arguments.readOption option
  | some (.switch _), some _ => .error .unneededValue
  | some (.switch switch), none => arguments.readSwitch switch

/-- Reads a word that started with one hyphen. -/
def Arguments.readShorts (arguments : Arguments) (place : Place) :
    List Char → Except UsageError Arguments
  -- Switches may stand together, and what follows an option is its value.
  | [] => .ok arguments
  | letter :: rest =>
    match Flag.ofShort? place letter, rest with
    | none, _ => .error .unknownArgument
    | some (.option name), [] => arguments.readOption name
    | some (.option name), '=' :: value => arguments.readOptionWith name (String.ofList value)
    | some (.option name), value => arguments.readOptionWith name (String.ofList value)
    | some (.switch name), rest => do (← arguments.readSwitch name).readShorts place rest

/-- Reads a word that is a flag, unless it is none. -/
def Arguments.readFlag? (arguments : Arguments) (place : Place) (word : String) :
    Option (Except UsageError Arguments) :=
  -- Hyphens alone are no flag.
  match word.toList with
  | '-' :: '-' :: letters =>
    if letters.isEmpty then none else some (arguments.readLong place letters)
  | '-' :: letters => if letters.isEmpty then none else some (arguments.readShorts place letters)
  | _ => none

/-- Reads the value of the option that awaits one. -/
def Arguments.readValue (arguments : Arguments) (word : String) : Arguments :=
  -- The value is looked at later.
  match arguments.pending? with
  | some (.option name none) => { arguments with pending? := some (.option name (some word)) }
  | _ => arguments

/-- The number of operands that have been read. -/
def Arguments.operandCount (arguments : Arguments) : Nat :=
  -- One more may be pending.
  match arguments.pending? with
  | some (.operand _ _) => arguments.operands.length + 1
  | _ => arguments.operands.length

/-- Reads an operand of a command. -/
def Arguments.readOperand (arguments : Arguments) (command : CommandName) (word : String) :
    Except UsageError Arguments := do
  -- One operand too many is found before what is pending is looked at.
  match command.operands[arguments.operandCount]? with
  | none => .error .unknownArgument
  | some sort => return { ← arguments.settle with pending? := some (.operand sort word) }

/-- Reads the words behind a command. -/
def Arguments.readBehind (arguments : Arguments) (command : CommandName) :
    List String → Except UsageError Arguments
  -- Two hyphens make operands of all words after them.
  | [] => arguments.settle
  | "--" :: words => do
    (← words.foldlM (fun arguments word => arguments.readOperand command word) arguments).settle
  | word :: words =>
    match arguments.readFlag? .behind word with
    | some outcome => do (← outcome).readBehind command words
    | none =>
      if arguments.awaitsValue then (arguments.readValue word).readBehind command words
      else do (← arguments.readOperand command word).readBehind command words

/-- The request for a command, from what stands in front of it and behind it. -/
def Arguments.request (command : CommandName) (front behind : Arguments) :
    Except UsageError Invocation := do
  -- What stands behind the command is looked at first and wins.
  match Command.ofOperands? command behind.operands with
  | none => .error .missingOperand
  | some command =>
    let settled ← front.settle
    return {
      settingsPath? := behind.settingsPath? <|> settled.settingsPath?
      format := (behind.format? <|> settled.format?).getD .pretty
      verbose := behind.verbose || settled.verbose
      command }

/-- The answer to a request for help on some words. -/
def helpError (words : List String) : UsageError :=
  -- Help can be had on the program, on a command and on help.
  match words with
  | [] => .helpRequested
  | [word] =>
    if word == "help" || (CommandName.ofText? word).isSome then .helpRequested else .unknownCommand
  | _ => .unknownCommand

/-- The answer when the words end before there is a command. -/
def Arguments.endError (arguments : Arguments) : UsageError :=
  -- What is pending is looked at first.
  match arguments.settle with
  | .error error => error
  | .ok settled => if settled.isUntouched then .nothingGiven else .missingCommand

/-- The answer to a word in front of the command that cannot be an option. -/
def operandError (word : String) : UsageError :=
  -- Two hyphens in front of a command are one argument too many.
  if word == "help" || (CommandName.ofText? word).isSome then .unknownArgument else .unknownCommand

/-- Reads the words from the front of the command on. -/
def Arguments.readFront (arguments : Arguments) : List String → Except UsageError Invocation
  -- A word that an option awaits is no command.
  | [] => .error arguments.endError
  | ["--"] => .error arguments.endError
  | "--" :: word :: _ => .error (operandError word)
  | word :: words =>
    match arguments.readFlag? .front word with
    | some outcome => do (← outcome).readFront words
    | none =>
      if arguments.awaitsValue then (arguments.readValue word).readFront words
      else if word == "help" then .error (helpError words)
      else
        match CommandName.ofText? word with
        | none => .error .unknownCommand
        | some command => do
          Arguments.request command arguments (← Arguments.readBehind {} command words)

/-- The request that the words of a command line make. -/
def parseArguments (words : List String) : Except UsageError Invocation :=
  -- Nothing has been read at the start.
  Arguments.readFront {} words

end PhpOutline
