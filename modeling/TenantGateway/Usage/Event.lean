import TenantGateway.Calendar.Rfc3339
import TenantGateway.Json.Printer

/-!
Usage events: one metered request each, as they are billed and written.
-/

namespace TenantGateway.Usage

open Calendar (Timestamp)

/-- Successful responses and client errors are billed; failures of the gateway or of a backend are
not. -/
def isBillable (status : UInt16) : Bool :=
  200 ≤ status && status < 500

/-- A metered request. -/
structure Event where
  requestId : String
  organization : String
  keyId : String
  endpoint : String
  method : String
  status : UInt16
  responseMillis : UInt64
  time : Timestamp
  billable : Bool
  deriving DecidableEq, Inhabited

namespace Event

/-- An event whose status decides whether it is billed. -/
def metered (requestId organization keyId endpoint method : String) (status : UInt16)
    (responseMillis : UInt64) (time : Timestamp) : Event :=
  { requestId, organization, keyId, endpoint, method, status, responseMillis, time
    billable := isBillable status }

/-- Events of one organization share a key, so that a sink keeps their order. -/
def partitionKey (e : Event) : String := e.organization

def toJson (e : Event) : Json :=
  .object [
    ("requestId", .text e.requestId),
    ("organizationId", .text e.organization),
    ("apiKeyId", .text e.keyId),
    ("endpoint", .text e.endpoint),
    ("method", .text e.method),
    ("statusCode", .integer e.status.toNat),
    ("responseTimeMs", .integer e.responseMillis.toNat),
    ("timestamp", .text e.time.rfc3339),
    ("billable", .bool e.billable)]

end Event

end TenantGateway.Usage
