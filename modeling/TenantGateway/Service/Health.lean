import TenantGateway.Json.Printer
import TenantGateway.Tenant.Cache

/-!
What the gateway says about its own health. It is ready from the first refresh of its cache on.
-/

namespace TenantGateway.Health

/-- An answer in JSON. -/
structure Answer where
  status : UInt16
  body : Json

def Answer.headers (_ : Answer) : List (String × String) :=
  [("content-type", "application/json")]

def healthy : Answer := { status := 200, body := .object [("status", .text "healthy")] }

def live : Answer := { status := 200, body := .object [("status", .text "alive")] }

def ready (c : Tenant.Cache) : Answer :=
  if c.generation = 0 then
    { status := 503
      body := .object [("reason", .text "tenant_cache_not_loaded"), ("status", .text "not_ready")] }
  else
    { status := 200
      body := .object [("cache_entries", .integer c.size),
        ("cache_generation", .integer c.generation), ("status", .text "ready")] }

end TenantGateway.Health
