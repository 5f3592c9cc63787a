import FlowGate.CommandLine.Basic
import FlowGate.CommandLine.SignUrl
import FlowGate.Server.ConfigFile
import FlowGate.Server.Router

/-!
# The program

Reads the command line, the configuration file and the environment, and prints signed URLs. The
server itself is `Server.handle`; the listener that feeds it requests is not part of the program.
-/

namespace FlowGate

/-- The bytes of a file, if it can be read. -/
def fileBytes? (path : String) : IO (Option (List UInt8)) := do
  try
    let bytes ← IO.FS.readBinFile path
    return some bytes.toList
  catch _ => return none

/-- The configuration that a command line and the environment ask for. -/
def readConfig (line : CommandLine) : IO Config := do
  let path ← IO.getEnv "WAYPOST_CONFIG"
  let file ← fileBytes? ((line.config.or path).getD CommandLine.defaultConfig)
  return .load file (← IO.getEnv "WAYPOST_SIGNATURE_SECRET")

/-- Ends the program with a text for the error output. -/
def refuse (code : UInt32) (text : String) : IO UInt32 := do
  (← IO.getStderr).putStr text
  return code

/-- Prints a signed URL. -/
def printUrl (line : CommandLine) (executionId : String) (suffix baseUrl : Option String) :
    IO UInt32 := do
  let config ← readConfig line
  match SignUrl.signedUrl config executionId suffix baseUrl with
  | .ok url =>
      IO.print (SignUrl.output line.json executionId url)
      return 0
  | .error failure => refuse 1 failure.report

/-- Answers a command line that does not ask for a command. -/
def answerUsage : CommandLine.UsageError → IO UInt32
  | .helpRequested => do
      IO.println "Usage: waypost [--json] [-v]... [--config <FILE>] <serve|sign-url|completions>"
      return 0
  | .versionRequested => do
      IO.println s!"waypost {Server.version}"
      return 0
  | _ => refuse 2 "error: the command line is not understood; try --help\n"

end FlowGate

/-- Runs the command of a command line. -/
def main (arguments : List String) : IO UInt32 :=
  match FlowGate.CommandLine.parse arguments with
  | .error error => FlowGate.answerUsage error
  | .ok line =>
      match line.command with
      | .signUrl executionId suffix baseUrl =>
          FlowGate.printUrl line executionId suffix baseUrl
      | .serve .. => FlowGate.refuse 1 "error: this program has no listener\n"
      | .completions _ => FlowGate.refuse 1 "error: this program makes no completions\n"
