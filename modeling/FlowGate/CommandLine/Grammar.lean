import FlowGate.Table
import FlowGate.Text.Basic

/-!
# Command line grammar

A command line is a list of arguments on one level: options with one or two dashes, at most one
positional argument, and the name of a subcommand, which ends the level. The value of an option is
the rest of its own argument or the next argument; it is settled, that is checked and stored, when
the next option begins or the level ends. After `--` every argument is positional.
-/

namespace FlowGate.CommandLine

/-- Why a command line is refused, or answered with a text of its own. -/
inductive UsageError where
  /-- The help text is asked for. -/
  | helpRequested
  /-- The version is asked for. -/
  | versionRequested
  /-- Nothing at all is given. -/
  | nothingGiven
  | missingSubcommand
  | unknownSubcommand
  | unknownArgument
  | missingArgument
  /-- A value is missing, empty or not one of those that are possible. -/
  | invalidValue
  /-- A value is not of the right form. -/
  | malformedValue
  /-- An option that takes no value has one. -/
  | unneededValue
  /-- An option is given twice. -/
  | repeatedOption
  deriving DecidableEq

/-- What an argument does. -/
inductive Action where
  /-- It takes a value, which is checked. -/
  | value (check : String → Except UsageError Unit)
  /-- It is given or not. -/
  | flag
  /-- It is counted. -/
  | count
  | help
  | version

/-- An option or a positional argument. -/
structure Argument where
  name : String
  /-- The letter of the option behind a single dash. -/
  short : Option Char
  action : Action

/-- What may stand on one level. -/
structure Grammar where
  options : List Argument
  positional : Option Argument
  subcommands : List String

/-- What has been read on one level. -/
structure Level where
  /-- The settled values, by the names of their arguments. -/
  values : Table String
  /-- How often the counted option was given. -/
  count : Nat
  /-- The argument to be settled next, and its value if that has been read. -/
  pending : Option (Argument × Option String)
  /-- Whether the positional argument has been read. -/
  positionalRead : Bool
  /-- Whether all further arguments are positional. -/
  afterDashes : Bool

/-- A level of which nothing has been read. -/
def Level.start : Level := ⟨.empty, 0, none, false, false⟩

namespace Level

/-- The greatest count of an option. -/
def greatestCount : Nat := 255

/-- Stores the value of an argument that has none yet. -/
def store (level : Level) (argument : Argument) (value : String) : Except UsageError Level := do
  if level.values.contains argument.name then throw .repeatedOption
  match argument.action with
  | .value check => check value
  | _ => pure ()
  return { level with values := level.values.insert argument.name value }

/-- Stores the value of the pending argument. -/
def settle (level : Level) : Except UsageError Level :=
  match level.pending with
  | none => .ok level
  | some (_, none) => .error .invalidValue
  | some (argument, some value) => { level with pending := none }.store argument value

/-- Whether an option waits for its value. -/
def awaitsValue (level : Level) : Bool :=
  match level.pending with
  | some (_, none) => true
  | _ => false

/-- Reads an option whose value, if it takes one, is the next argument. -/
def give (level : Level) (argument : Argument) : Except UsageError Level := do
  let level ← level.settle
  match argument.action with
  | .value _ => return { level with pending := some (argument, none) }
  | .flag => level.store argument "true"
  | .count => return { level with count := min greatestCount (level.count + 1) }
  | .help => throw .helpRequested
  | .version => throw .versionRequested

/-- Reads an option with its value. -/
def giveValue (level : Level) (argument : Argument) (value : String) :
    Except UsageError Level := do
  (← level.settle).store argument value

end Level

namespace Grammar

/-- Reads an option behind two dashes. -/
def readLong (grammar : Grammar) (level : Level) (name : String) (value : Option String) :
    Except UsageError Level :=
  match grammar.options.find? (·.name = name), value with
  | none, _ => .error .unknownArgument
  | some argument, none => level.give argument
  | some argument, some value =>
      match argument.action with
      | .value _ => level.giveValue argument value
      | _ => .error .unneededValue

/-- Reads the letters behind a single dash; the first option that takes a value takes the rest as
its value. -/
def readShort (grammar : Grammar) (level : Level) : List Char → Except UsageError Level
  | [] => .ok level
  | letter :: rest =>
      match grammar.options.find? (·.short = some letter) with
      | none => .error .unknownArgument
      | some argument =>
          match argument.action, rest with
          | .value _, [] => level.give argument
          | .value _, '=' :: value => level.giveValue argument (String.ofList value)
          | .value _, value => level.giveValue argument (String.ofList value)
          | _, rest => do grammar.readShort (← level.give argument) rest

/-- Reads a positional argument. -/
def readPositional (grammar : Grammar) (level : Level) (text : String) :
    Except UsageError Level := do
  match grammar.positional, level.positionalRead with
  | some argument, false =>
      return { ← level.settle with pending := some (argument, some text), positionalRead := true }
  | _, _ =>
      if grammar.subcommands.isEmpty || (level.afterDashes && text ∈ grammar.subcommands) then
        throw .unknownArgument
      else throw .unknownSubcommand

/-- Reads one argument that is not the name of a subcommand. -/
def readArgument (grammar : Grammar) (level : Level) (text : String) : Except UsageError Level :=
  if level.afterDashes then grammar.readPositional level text
  else
    match text.toList with
    | ['-', '-'] => .ok { level with afterDashes := true }
    | '-' :: '-' :: name =>
        match Text.splitOnce? '=' (String.ofList name) with
        | some (name, value) => grammar.readLong level name (some value)
        | none => grammar.readLong level (String.ofList name) none
    | '-' :: letter :: letters => grammar.readShort level (letter :: letters)
    | _ =>
        match level.pending with
        | some (argument, none) => .ok { level with pending := some (argument, some text) }
        | _ => grammar.readPositional level text

/-- Reads arguments up to the name of a subcommand, and gives that name with the arguments behind
it. -/
def read (grammar : Grammar) (level : Level) :
    List String → Except UsageError (Level × Option (String × List String))
  | [] => .ok (level, none)
  | text :: rest =>
      if !level.afterDashes && !level.awaitsValue && text ∈ grammar.subcommands then
        .ok (level, some (text, rest))
      else do grammar.read (← grammar.readArgument level text) rest

end Grammar

end FlowGate.CommandLine
