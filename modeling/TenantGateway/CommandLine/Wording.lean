import TenantGateway.CommandLine.Arguments

/-!
The texts of the command: what it is and how it is used.
-/

namespace TenantGateway.CommandLine

def programName : String := "tollgate"

def programVersion : String := "0.0.1"

/-- The environment variable that names the settings file. -/
def pathVariable : String := "TOLLGATE_CONFIG"

def defaultPath : String := "config/tollgate.toml"

def versionText : List String := [programName ++ " " ++ programVersion]

def usageLine (wanted : List Parameter) : String :=
  let shown := if wanted.isEmpty then ["[OPTIONS]"] else wanted.map Parameter.shown
  "Usage: " ++ " ".intercalate (programName :: shown)

/-- The help; it shows the path that the environment gives. -/
def helpText (path : String) : List String :=
  ["Tollgate multi-tenant API gateway", "", usageLine [], "", "Options:",
    "  -c, --config <FILE>  Path to configuration TOML file [env: " ++ pathVariable ++ "=" ++
      path ++ "] [default: " ++ defaultPath ++ "]",
    "  -h, --help           Print help",
    "  -V, --version        Print version"]

namespace UsageError

def message : UsageError → String
  | .valueMissing => "a value is required for '--config <FILE>' but none was supplied"
  | .repeated => "the argument '--config <FILE>' cannot be used multiple times"
  | .unexpected argument _ _ => "unexpected argument '" ++ argument ++ "' found"
  | .unexpectedValue value flag _ =>
    "unexpected value '" ++ value ++ "' for '" ++ flag.shown ++ "' found; no more were expected"

/-- What is said between the message and the last line. -/
def advice : UsageError → List String
  | .valueMissing => []
  | .repeated => [usageLine [], ""]
  | .unexpected _ none wanted | .unexpectedValue _ _ wanted => [usageLine wanted, ""]
  | .unexpected _ (some similar) wanted =>
    ["  tip: a similar argument exists: '--" ++ similar.name ++ "'", "", usageLine wanted, ""]

def lines (e : UsageError) : List String :=
  ["error: " ++ e.message, ""] ++ e.advice ++ ["For more information, try '--help'."]

end UsageError

end TenantGateway.CommandLine
