import TenantGateway.CommandLine.Program
import TenantGateway.Settings.Environment

/-!
The command itself: it hands arguments, environment and the settings file to the program, and writes
what comes back. Listening on ports is left to a transport, which this build does not have.
-/

namespace TenantGateway.CommandLine

/-- Why the system does not let a file be read. -/
def systemReason : IO.Error → String
  | .noFileOrDirectory .. => "No such file or directory (os error 2)"
  | .permissionDenied .. => "Permission denied (os error 13)"
  | .inappropriateType .. => "Is a directory (os error 21)"
  | e => toString e

/-- The text of a file, or why there is none. -/
def readText (path : String) : IO (Except String String) := do
  try
    match String.fromUTF8? (← IO.FS.readBinFile path) with
    | some text => return .ok text
    | none => return .error "stream did not contain valid UTF-8"
  catch e => return .error (systemReason e)

/-- The variables of the environment that the program looks at. -/
def variableNames : List String :=
  [pathVariable, filterVariable] ++ Variable.all.map Variable.name

/-- The settings file that the arguments and the environment name. -/
def readSettings (arguments : List String) (environment : String → Option String) :
    IO (Except String String) :=
  match Request.ofArguments arguments with
  | .ok (.start given) =>
    match settingsPath given environment with
    | .ok path => readText path
    | .error _ => return .error ""
  | _ => return .error ""

/-- Runs the command; a gateway that could start has no ports to listen on. -/
def execute (arguments : List String) : IO UInt32 := do
  let known ← variableNames.mapM fun name => return (name, ← IO.getEnv name)
  let environment (name : String) : Option String := (known.lookup name).join
  let content ← readSettings arguments environment
  let outcome := run arguments environment fun _ => content
  outcome.output.forM IO.println
  outcome.errors.forM IO.eprintln
  match outcome.exit with
  | some status => return UInt32.ofNat status
  | none =>
    IO.eprintln "this build has no transport to listen with"
    return 1

end TenantGateway.CommandLine

def main (arguments : List String) : IO UInt32 := TenantGateway.CommandLine.execute arguments
