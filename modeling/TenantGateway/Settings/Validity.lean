import TenantGateway.Settings.Environment
import TenantGateway.Settings.Reader

/-!
Which settings a gateway can run with, and settings loaded from a file and the environment.
-/

namespace TenantGateway.Settings

/-- Checks services one after another; `seen` holds the names of those before. -/
def checkServices (seen : List String) : List Service → Except SettingsError Unit
  | [] => .ok ()
  | s :: rest =>
    if (Text.trim s.name).isEmpty ∨ s.name.toList.contains '/' then .error (.serviceName s.name)
    else if s.name ∈ seen then .error (.duplicateService s.name)
    else
      match Net.Uri.parse s.url with
      | .error e => .error (.serviceUri e)
      | .ok u =>
        if u.scheme = some "http" ∧ u.authority.isSome then checkServices (s.name :: seen) rest
        else .error (.notPlainHttp s.name s.url)

/-- The quantities that must not be zero, with their names. -/
def quantities (s : Settings) : List (String × UInt64) :=
  [("cache.refresh_interval_secs", s.cache.refreshSeconds),
    ("cache.entry_ttl_secs", s.cache.entryTtlSeconds),
    ("rate_limit.timeout_ms", s.rateLimit.timeoutMillis),
    ("usage.buffer_capacity", s.usage.bufferCapacity),
    ("usage.batch_size", s.usage.batchSize),
    ("usage.flush_interval_ms", s.usage.flushIntervalMillis),
    ("timeout.request_ms", s.timeout.requestMillis)]

def checkQuantities : List (String × UInt64) → Except SettingsError Unit
  | [] => .ok ()
  | (name, n) :: rest => if n = 0 then .error (.zero name) else checkQuantities rest

/-- Checks that a gateway can run with the settings; the first fault is told. -/
def validate (s : Settings) : Except SettingsError Unit := do
  if s.services.isEmpty then throw .noServices
  checkServices [] s.services
  checkQuantities s.quantities

/-- Settings from a file's text and an environment, once they are found valid. -/
def load (text : Except String String) (lookup : String → Option String) :
    Except SettingsError Settings := do
  let text ← text.mapError .unreadable
  let (outcome, s) := (← parse text).override lookup
  outcome
  s.validate
  return s

end TenantGateway.Settings
