import FlowGate.CommandLine.Grammar

/-!
# The command line

The commands of the program and their options. The options `--json`, `-v` and `--config` may stand
before or behind the name of the command; if one stands on both sides, the one behind it counts.
-/

namespace FlowGate

/-- A shell that completions can be made for. -/
inductive Shell where
  | bash
  | elvish
  | fish
  | powershell
  | zsh
  deriving DecidableEq

/-- A command with its own options. -/
inductive Command where
  /-- Starts the server. -/
  | serve (port : Option UInt16) (host seed : Option String)
  /-- Prints a signed URL that resumes an execution. -/
  | signUrl (executionId : String) (suffix baseUrl : Option String)
  /-- Prints completions for a shell. -/
  | completions (shell : Shell)
  deriving DecidableEq

/-- A command with the options that all commands have. -/
structure CommandLine where
  /-- Whether output is meant for programs. -/
  json : Bool
  /-- The number of `-v` options. -/
  verbosity : Nat
  /-- The configuration file, if one is given. -/
  config : Option String
  command : Command
  deriving DecidableEq

namespace Shell

/-- The name of a shell. -/
def name : Shell → String
  | .bash => "bash"
  | .elvish => "elvish"
  | .fish => "fish"
  | .powershell => "powershell"
  | .zsh => "zsh"

/-- Every shell. -/
def all : List Shell := [.bash, .elvish, .fish, .powershell, .zsh]

/-- The shell with a name. -/
def ofName? (name : String) : Option Shell := all.find? (·.name = name)

end Shell

namespace CommandLine

/-- Reads a port: digits, perhaps behind a sign. -/
def readPort? (text : String) : Option UInt16 :=
  let (negative, digits) := match text.toList with
    | '+' :: digits => (false, digits)
    | '-' :: digits => (true, digits)
    | digits => (false, digits)
  let value := digits.foldl (fun value c ↦ value * 10 + (c.toNat - '0'.toNat)) 0
  if digits = [] ∨ !digits.all Char.isDigit then none
  else if negative ∧ value ≠ 0 then none
  else if value < UInt16.size then some (.ofNat value)
  else none

/-- Any text. -/
def anyText (_ : String) : Except UsageError Unit := .ok ()

/-- The path of a file. -/
def path (text : String) : Except UsageError Unit :=
  if text = "" then .error .invalidValue else .ok ()

/-- A port. -/
def port (text : String) : Except UsageError Unit :=
  if (readPort? text).isSome then .ok () else .error .malformedValue

/-- The name of a shell. -/
def shell (text : String) : Except UsageError Unit :=
  if (Shell.ofName? text).isSome then .ok () else .error .invalidValue

/-- The options that every level has. -/
def commonOptions : List Argument :=
  [⟨"json", none, .flag⟩, ⟨"verbose", some 'v', .count⟩, ⟨"config", none, .value path⟩,
    ⟨"help", some 'h', .help⟩, ⟨"version", some 'V', .version⟩]

/-- The names of the commands. -/
def commandNames : List String := ["serve", "sign-url", "completions"]

/-- The name of the command that prints help. -/
def helpName : String := "help"

/-- The level in front of the command. -/
def rootGrammar : Grammar := ⟨commonOptions, none, commandNames ++ [helpName]⟩

/-- The level behind the name of a command. -/
def commandGrammar (name : String) : Grammar :=
  match name with
  | "serve" =>
      ⟨[⟨"port", some 'p', .value port⟩, ⟨"host", none, .value anyText⟩,
        ⟨"seed", none, .value path⟩] ++ commonOptions, none, []⟩
  | "sign-url" =>
      ⟨[⟨"suffix", none, .value anyText⟩, ⟨"base-url", none, .value anyText⟩] ++ commonOptions,
        some ⟨"execution-id", none, .value anyText⟩, []⟩
  | "completions" => ⟨commonOptions, some ⟨"shell", none, .value shell⟩, []⟩
  | _ => ⟨commonOptions, none, []⟩

/-- The command of the values behind its name. -/
def commandOf (name : String) (values : Table String) : Except UsageError Command :=
  match name with
  | "serve" =>
      .ok (.serve ((values.get? "port").bind readPort?) (values.get? "host") (values.get? "seed"))
  | "sign-url" =>
      match values.get? "execution-id" with
      | some id => .ok (.signUrl id (values.get? "suffix") (values.get? "base-url"))
      | none => .error .missingArgument
  | "completions" =>
      match (values.get? "shell").bind Shell.ofName? with
      | some shell => .ok (.completions shell)
      | none => .error .missingArgument
  | _ => .error .unknownSubcommand

/-- What the command that prints help answers. -/
def helpError : List String → UsageError
  | [] => .helpRequested
  | [name] => if name ∈ rootGrammar.subcommands then .helpRequested else .unknownSubcommand
  | _ => .unknownSubcommand

/-- Reads a command line without the name of the program. -/
def parse (arguments : List String) : Except UsageError CommandLine := do
  match ← rootGrammar.read .start arguments with
  | (root, none) =>
      let root ← root.settle
      if root.values.isEmpty ∧ root.count = 0 then throw .nothingGiven
      throw .missingSubcommand
  | (root, some (name, rest)) =>
      if name = helpName then throw (helpError rest)
      let (level, _) ← (commandGrammar name).read .start rest
      let level ← level.settle
      let command ← commandOf name level.values
      let root ← root.settle
      return {
        json := root.values.contains "json" || level.values.contains "json"
        verbosity := if level.count = 0 then root.count else level.count
        config := (level.values.get? "config").or (root.values.get? "config")
        command }

/-- The configuration file when none is given. -/
def defaultConfig : String := "waypost.toml"

end CommandLine

end FlowGate
