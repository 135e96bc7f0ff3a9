import TenantGateway.Clock
import TenantGateway.RateLimit.Quota
import TenantGateway.Tenant.Fingerprint

/-!
What is known about a key: whose it is, and what it may use. A cached record is good until an
instant.
-/

namespace TenantGateway.Tenant

/-- What the directory knows about an active key. -/
structure Record where
  organization : String
  keyId : String
  quota : Quota
  deriving DecidableEq, Repr, Inhabited

/-- A record as the cache holds it. -/
structure Entry where
  fingerprint : Fingerprint
  record : Record
  expiresAt : Instant
  deriving DecidableEq, Repr, Inhabited

namespace Entry

def isExpired (e : Entry) (now : Instant) : Bool := e.expiresAt ≤ now

/-- An entry that is good for some seconds from now, if the clock can represent its end. -/
def lasting? (ttlSeconds : Nat) (now : Instant) (f : Fingerprint) (r : Record) : Option Entry :=
  (now.deadline? ttlSeconds).map fun expiresAt => { fingerprint := f, record := r, expiresAt }

end Entry

end TenantGateway.Tenant
