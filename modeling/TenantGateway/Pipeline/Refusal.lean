import TenantGateway.RateLimit.Limiter
import TenantGateway.Tenant.Authenticator
import TenantGateway.Json.Printer

/-!
What the gateway answers by itself instead of a backend's response: a status, a stable code, and a
message.
-/

namespace TenantGateway

open RateLimit (Decision Admission LimiterError)
open Tenant (AuthError)

/-- Every answer that does not come from a backend. -/
inductive Refusal where
  | authMissing
  | authInvalid
  | authUnavailable (reason : String)
  | rateLimitExceeded (d : Decision)
  | rateLimiterUnavailable (reason : String)
  | unknownService (path : String)
  | badRequest (reason : String)
  | backendUnavailable (reason : String)
  | backendTimeout
  deriving DecidableEq, Repr

namespace Refusal

def code : Refusal → String
  | .authMissing => "auth_missing"
  | .authInvalid => "auth_invalid"
  | .authUnavailable _ => "auth_unavailable"
  | .rateLimitExceeded _ => "rate_limit_exceeded"
  | .rateLimiterUnavailable _ => "rate_limiter_unavailable"
  | .unknownService _ => "unknown_service"
  | .badRequest _ => "bad_request"
  | .backendUnavailable _ => "backend_unavailable"
  | .backendTimeout => "backend_timeout"

def status : Refusal → UInt16
  | .authMissing | .authInvalid => 401
  | .authUnavailable _ | .rateLimiterUnavailable _ => 503
  | .rateLimitExceeded _ => 429
  | .unknownService _ => 404
  | .badRequest _ => 400
  | .backendUnavailable _ => 502
  | .backendTimeout => 504

/-- What the client is told; reasons of an outage inside the gateway are kept back. -/
def message : Refusal → String
  | .authMissing => "No API key provided"
  | .authInvalid => "Invalid API key"
  | .authUnavailable _ => "Authentication temporarily unavailable"
  | .rateLimitExceeded _ => "Rate limit exceeded"
  | .rateLimiterUnavailable _ => "Rate limiter unavailable"
  | .unknownService path => "Unknown service: " ++ path
  | .badRequest reason => "Failed to generate upstream request for backend: " ++ reason
  | .backendUnavailable reason => "Backend unavailable: " ++ reason
  | .backendTimeout => "Backend did not respond in time"

/-- Whether a backend was tried, so that the request is metered. -/
def isBackendFailure : Refusal → Bool
  | .backendUnavailable _ | .backendTimeout => true
  | _ => false

def ofAuthError : AuthError → Refusal
  | .missing => .authMissing
  | .invalid => .authInvalid
  | .unavailable reason => .authUnavailable reason

/-- What the limiter's admission means for a request: the decision to report, none where the limiter
was skipped, or a refusal. -/
def ofAdmission (r : Except LimiterError Admission) : Except Refusal (Option Decision) :=
  match r with
  | .ok (.allowed d) => .ok (some d)
  | .ok (.denied d) => .error (.rateLimitExceeded d)
  | .ok (.degraded _) => .ok none
  | .error e => .error (.rateLimiterUnavailable e.message)

/-- Members of the error object, in alphabetical order. -/
def bodyMembers (r : Refusal) : List (String × Json) :=
  match r with
  | .rateLimitExceeded d =>
    [("code", .text r.code), ("daily_count", .word d.dailyCount),
      ("limit_type", d.exceeded.elim .null fun t => .text t.name), ("message", .text r.message),
      ("minute_count", .word d.minuteCount), ("retry_after_secs", .word d.retryAfter)]
  | _ => [("code", .text r.code), ("message", .text r.message)]

/-- The JSON body of the answer. -/
def body (r : Refusal) : Json := .object [("error", .object r.bodyMembers)]

end Refusal

/-- Headers that tell a client the state of its windows. -/
def rateLimitHeaders (d : Decision) : List (String × String) :=
  [("x-ratelimit-limit-minute", toString d.minuteLimit),
    ("x-ratelimit-remaining-minute", toString d.minuteRemaining),
    ("x-ratelimit-limit-day", toString d.dailyLimit),
    ("x-ratelimit-remaining-day", toString d.dailyRemaining),
    ("x-ratelimit-reset", toString (if d.allowed then d.resetMinute else d.retryAfter))]

/-- The headers that describe a refusal's body, and a limit where one is exceeded. -/
def Refusal.headers : Refusal → List (String × String)
  | .rateLimitExceeded d =>
    [("content-type", "application/json"), ("retry-after", toString d.retryAfter)] ++
      rateLimitHeaders d
  | _ => [("content-type", "application/json")]

end TenantGateway
