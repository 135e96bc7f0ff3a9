import TenantGateway.Net.Message
import TenantGateway.Pipeline.Forwarding
import TenantGateway.Pipeline.Refusal
import TenantGateway.Service.Routing
import TenantGateway.Tenant.Credential
import TenantGateway.Usage.Event

/-!
The way of a request through the gateway. Three questions are asked about it: the directory tells
whose it is, the counter store whether it is within the tenant's limits, and the backend gives the
response. Each of them takes time in which other requests go on, so that the way is cut into stages,
and each answer leads from one stage to the next. A request that has got as far as a backend is
metered, whatever the backend does.
-/

namespace TenantGateway.Pipeline

open Net (Request Response Uri IpAddress)
open RateLimit (Admission Decision LimiterError)
open Tenant (Record Verdict)

/-- A request as it has arrived. -/
structure Arrival where
  request : Request
  /-- Names the request to the backend, to the client and in its usage event. -/
  id : String
  peer : IpAddress
  deriving DecidableEq, Repr

/-- Whose a request is, and the backend address that it goes to. -/
structure Direction where
  tenant : Record
  service : String
  target : Uri
  deriving DecidableEq, Repr

/-- What a request whose caller has been asked for waits for. -/
inductive Stage where
  /-- The counter store. -/
  | counting (d : Direction)
  /-- The backend. A limiter that was skipped has left no decision. -/
  | forwarding (d : Direction) (decision : Option Decision)
  /-- Nothing more; the service is named if one was found. -/
  | answered (service : Option String) (result : Except Refusal Response)
  /-- Nothing more, and no answer: a deadline lies outside the clock's range. -/
  | brokenOff

/-- The service of a request and its backend's address, or the refusal and the service that was
found nevertheless. -/
def direct (services : List Service) (tenant : Record) (target : Uri) :
    Except (Option String × Refusal) Direction :=
  match Route.resolve? services target.routingPath with
  | none => .error (none, .unknownService target.path)
  | some route =>
    match route.backendUri with
    | .ok uri => .ok { tenant, service := route.service.name, target := uri }
    | .error e => .error (some route.service.name, .badRequest e.message)

namespace Stage

/-- The caller is known, or is a stranger. -/
def afterAuthentication (services : List Service) (a : Arrival) : Verdict → Stage
  | .granted entry =>
    match direct services entry.record a.request.target with
    | .ok d => .counting d
    | .error (service, refusal) => .answered service (.error refusal)
  | .denied e => .answered none (.error (.ofAuthError e))
  | .deadlineOverflow => .brokenOff

/-- The limiter has decided; it gives nothing when the store broke off. -/
def afterCounting (d : Direction) : Option (Except LimiterError Admission) → Stage
  | none => .brokenOff
  | some admission =>
    match Refusal.ofAdmission admission with
    | .ok decision => .forwarding d decision
    | .error refusal => .answered (some d.service) (.error refusal)

/-- Tells the client the state of its windows. -/
def withLimits (decision : Option Decision) (r : Response) : Response :=
  match decision with
  | none => r
  | some d => { r with headers := (rateLimitHeaders d).foldl (fun h (n, v) => h.set n v) r.headers }

/-- The backend has responded, or has failed to. -/
def afterForwarding (d : Direction) (decision : Option Decision)
    (result : Except Refusal Response) : Stage :=
  .answered (some d.service) (result.map (withLimits decision))

end Stage

/-- The request as the backend gets it: with the tenant's identity instead of the credential, and
for the backend's host. -/
def Direction.outgoing (d : Direction) (a : Arrival) : Request :=
  let h := Forwarding.stripCredentials a.request.headers
  let h := Forwarding.injectIdentity h d.tenant.organization d.tenant.keyId a.id
  let h := Forwarding.addForwarded h a.peer
  { a.request with target := d.target, headers := h.remove "host" }

/-- The status to meter: that of the response, or of the failure when a backend was tried. -/
def meteredStatus? : Except Refusal Response → Option UInt16
  | .ok r => some r.status
  | .error e => if e.isBackendFailure then some e.status else none

/-- The usage event of a request that a backend has dealt with; the endpoint is the path that the
client asked for. -/
def Direction.event? (d : Direction) (a : Arrival) (result : Except Refusal Response)
    (millis : UInt64) (time : Calendar.Timestamp) : Option Usage.Event :=
  (meteredStatus? result).map fun status =>
    .metered a.id d.tenant.organization d.tenant.keyId a.request.target.path a.request.method status
      millis time

def refusalResponse (r : Refusal) : Response :=
  { status := r.status, headers := r.headers, body := r.body.render }

/-- The response to the client, which names the request. -/
def Arrival.response (a : Arrival) (result : Except Refusal Response) : Response :=
  let r :=
    match result with
    | .ok r => r
    | .error e => refusalResponse e
  { r with headers := r.headers.setValid "x-request-id" a.id }

/-- What is reported of a backend's part. -/
def forwardingMeasurement (service : String) (result : Except Refusal Response) (seconds : Float) :
    Measurement :=
  match result with
  | .ok r => .backendRequest service r.status seconds
  | .error e => .backendError service e.code

/-- What is reported of an answered request; a request without a service has a dash for it. -/
def Arrival.measurements (a : Arrival) (service : Option String) (result : Except Refusal Response)
    (seconds : Float) : List Measurement :=
  let request := .request a.request.method (a.response result).status (service.getD "-") seconds
  match result with
  | .ok _ => [request]
  | .error e => [.error e.code, request]

end TenantGateway.Pipeline
