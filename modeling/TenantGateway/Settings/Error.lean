import TenantGateway.Net.Uri
import TenantGateway.Toml.Reader

/-!
Why settings cannot be used, and the text that says so.
-/

namespace TenantGateway

inductive SettingsError where
  /-- The file cannot be read, for a reason that the system gives. -/
  | unreadable (reason : String)
  | illFormed (e : Toml.ReadError)
  /-- An environment variable with a value that does not fit. -/
  | variable (name reason : String)
  | noServices
  | serviceName (name : String)
  | duplicateService (name : String)
  | serviceUri (e : Net.UriError)
  /-- A service whose address is not a plain absolute one. -/
  | notPlainHttp (name url : String)
  /-- A quantity that must not be zero. -/
  | zero (field : String)
  deriving DecidableEq, Repr

namespace SettingsError

/-- The class of the error. -/
inductive Kind where
  | configuration
  | uri
  | noServices
  deriving DecidableEq, Repr

def kind : SettingsError → Kind
  | .noServices => .noServices
  | .serviceUri _ => .uri
  | _ => .configuration

/-- What is wrong, without the class of the error. -/
def detail : SettingsError → String
  | .unreadable reason => "Failed to read config file: " ++ reason
  | .illFormed e => "Failed to parse config: " ++ e.message
  | .variable name reason => name ++ ": " ++ reason
  | .noServices => "No services configured"
  | .serviceName name => "Invalid service name: '" ++ name ++ "'"
  | .duplicateService name => "Duplicate service name: " ++ name
  | .serviceUri e => e.message
  | .notPlainHttp name url =>
    "Service " ++ name ++ " must use an http://host[:port] URL, got " ++ url
  | .zero field => field ++ " must be > 0"

def message (e : SettingsError) : String :=
  match e.kind with
  | .configuration => "Configuration error: " ++ e.detail
  | .uri => "Invalid URI: " ++ e.detail
  | .noServices => e.detail

end SettingsError

end TenantGateway
