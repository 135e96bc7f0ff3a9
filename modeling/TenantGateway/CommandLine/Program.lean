import TenantGateway.CommandLine.Wording
import TenantGateway.Log.Event
import TenantGateway.Service.Startup
import TenantGateway.Settings.Validity

/-!
What the command does: it answers by a text, or loads settings and starts a gateway, and tells the
log how far it gets.
-/

namespace TenantGateway.CommandLine

open Log (Level)

/-- What a run has written, and its exit status; a gateway that has started has none yet. -/
structure Outcome where
  exit : Option Nat
  output : List String
  errors : List String
  deriving DecidableEq, Repr

/-- The path of the settings: an argument comes before the environment. An empty one is none. -/
def settingsPath (given : Option String) (environment : String → Option String) :
    Except UsageError String :=
  match given.or (environment pathVariable) with
  | none => .ok defaultPath
  | some path => if path.isEmpty then .error .valueMissing else .ok path

/-- The environment variable that sets the log filter. -/
def filterVariable : String := "RUST_LOG"

/-- The target of what the command itself logs. -/
def ownTarget : String := "tollgate"

/-- The target of what is logged of a gateway's parts. -/
def partsTarget : String := "tollgate_lib::proxy::context"

/-- What a start logs. -/
def startEvents (s : Settings) : List Log.Event :=
  let loaded : Log.Event :=
    { level := .info, target := ownTarget, text := "configuration loaded"
      fields := [("cfg.listen", s.listen.text), ("services", toString s.services.length)] }
  let (notices, result) := Startup.prepare s
  let parts := notices.map fun n =>
    { level := Level.info, target := partsTarget, text := n.text, fields := n.detail.toList }
  let failure : List Log.Event :=
    match result with
    | .ok () => []
    | .error e =>
      [{ level := .error, target := ownTarget, text := "gateway exited with error"
         fields := [("err", e.message)] }]
  loaded :: parts ++ failure

/-- The filter that the environment gives if it is right, or else that of the settings, with what is
said of directives that are left out. -/
def logFilter (s : Settings) (environment : String → Option String) : List String × Log.Filter :=
  match (environment filterVariable).map Log.Filter.parse with
  | some (.ok f) => ([], f)
  | _ =>
    let (faults, f) :=
      Log.Filter.parseLeniently (s.logging.level ++ ",opentelemetry=" ++ s.telemetry.telemetryLevel)
    (faults.map fun (part, e) => "ignoring `" ++ part ++ "`: " ++ e.message, f)

/-- Starts a gateway with settings that have been loaded. -/
def start (s : Settings) (environment : String → Option String) : Outcome :=
  let (errors, filter) := logFilter s environment
  { exit := if (Startup.prepare s).2.toOption.isSome then none else some 1
    output := filter.lines s.logging.showTarget (startEvents s)
    errors }

def refuse (e : UsageError) : Outcome := { exit := some 2, output := [], errors := e.lines }

/-- Runs the command; files are read by `read`, which gives a reason where there is nothing to
read. -/
def run (arguments : List String) (environment : String → Option String)
    (read : String → Except String String) : Outcome :=
  match Request.ofArguments arguments with
  | .error e => refuse e
  | .ok .help =>
    { exit := some 0, output := helpText ((environment pathVariable).getD ""), errors := [] }
  | .ok .version => { exit := some 0, output := versionText, errors := [] }
  | .ok (.start given) =>
    match settingsPath given environment with
    | .error e => refuse e
    | .ok path =>
      match Settings.load (read path) environment with
      | .ok s => start s environment
      | .error e =>
        { exit := some 1, output := []
          errors := ["failed to load configuration from " ++ path ++ ": " ++ e.message] }

end TenantGateway.CommandLine
