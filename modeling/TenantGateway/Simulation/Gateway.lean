import TenantGateway.Pipeline.Stage
import TenantGateway.Settings.Basic
import TenantGateway.Simulation.Backends
import TenantGateway.Simulation.Counters
import TenantGateway.Simulation.Emitter
import TenantGateway.Simulation.Tenants

/-!
A whole gateway on a virtual clock: its parts, scripted backends, and requests that go through all
stages. A shutdown lets a request that waits for its backend use the grace.
-/

namespace TenantGateway.Simulation

open Net (Request Response IpAddress)
open Pipeline (Arrival Direction Stage)
open RateLimit (Decision)
open Calendar (Timestamp)

structure GatewaySession where
  services : List Service
  requestTimeout : Duration
  grace : Duration
  backends : List Backend
  windows : Windows
  wall : Timestamp
  tenants : TenantSession
  limits : LimiterSession
  usage : EmitterSession
  now : Instant
  /-- Whether connections are closed once they are idle. -/
  stopping : Bool
  /-- The number of requests that have arrived. -/
  arrivals : Nat
  /-- What the pipeline itself has reported, the latest first. -/
  reports : List Measurement

/-- How a request has gone: the response as its client gets it, unless it broke off, and what a
backend saw of it. -/
structure Exchange where
  id : String
  response : Option Response
  sighting : Option Sighting

/-- A request whose tenant and backend are known, before it is counted. -/
structure Identified where
  arrival : Arrival
  direction : Direction
  began : Instant

/-- A request that waits for its backend. -/
structure Pending where
  arrival : Arrival
  direction : Direction
  decision : Option Decision
  began : Instant
  due : Instant
  call : Call

/-- The name of a request: an identifier of the random kind with the request's number in its last
field. -/
def requestName (n : Nat) : String :=
  "00000000-0000-4000-8000-" ++ Text.padded 12 n

namespace GatewaySession

/-- The gateway of some settings once its first refresh has ended. -/
def ofSettings (settings : Settings) (directory : SlowDirectory) (sink : SlowSink)
    (backends : List Backend) (dailyTtl : UInt64) (wall : Timestamp) : GatewaySession :=
  let limiter : RateLimit.Limiter :=
    { policy := settings.rateLimit.policy
      timeout := .ofMillis settings.rateLimit.timeoutMillis.toNat
      minuteTtl := settings.rateLimit.minuteTtlSeconds }
  let usage : Usage.EmitterSettings :=
    { topic := settings.usage.topic, capacity := settings.usage.bufferCapacity.toNat
      batchSize := settings.usage.batchSize.toNat
      interval := .ofMillis settings.usage.flushIntervalMillis.toNat
      retries := settings.usage.publishRetries.toNat }
  let tenants := TenantSession.ofDirectory directory settings.cache.entryTtlSeconds.toNat
    (.ofMillis settings.cache.fetchTimeoutMillis.toNat)
  let tenants := (tenants.startLoop (.ofSeconds settings.cache.refreshSeconds.toNat)).awaitCycle 16
  let usage := { EmitterSession.ofSettings usage sink.keeps with sink }.poll
  { services := settings.services
    requestTimeout := .ofMillis settings.timeout.requestMillis.toNat
    grace := .ofSeconds settings.timeout.shutdownSeconds.toNat
    backends, windows := .pinned dailyTtl, wall, tenants
    limits := { LimiterSession.ofLimiter limiter with now := tenants.now }
    usage := (usage.wait (tenants.now.since usage.now)).poll
    now := tenants.now
    stopping := false
    arrivals := 0
    reports := [] }

def report (s : GatewaySession) (ms : List Measurement) : GatewaySession :=
  { s with reports := ms.reverse ++ s.reports }

/-- All that has been reported; what one part has reported is in order. -/
def allReports (s : GatewaySession) : List Measurement :=
  s.tenants.reports.reverse ++ s.limits.reports.reverse ++ s.usage.emitter.reports.reverse ++
    s.reports.reverse

/-- Lets all parts run up to an instant. -/
def runTo (s : GatewaySession) (t : Instant) : GatewaySession :=
  { s with
    now := t
    tenants := s.tenants.wait (t.since s.tenants.now)
    limits := { s.limits with now := t }
    usage := (s.usage.wait (t.since s.usage.now)).poll }

def seconds (s : GatewaySession) (began : Instant) : Float :=
  (s.now.since began).nanos.toFloat / 1e9

/-- Gives the answer of a request that has come to its end. -/
def conclude (s : GatewaySession) (a : Arrival) (began : Instant) (sighting : Option Sighting) :
    Stage → Exchange × GatewaySession
  | .answered service result =>
    let response := Wire.deliverResponse a.request s.stopping (a.response result)
    ({ id := a.id, response := some response, sighting },
      s.report (a.measurements service result (s.seconds began)))
  | _ => ({ id := a.id, response := none, sighting }, s)

/-- The address that clients come from. -/
def clientAddress : IpAddress := .v4 [127, 0, 0, 1]

/-- A request as the gateway gets it next. -/
def arrival (s : GatewaySession) (r : Request) : Arrival :=
  { request := Wire.deliverRequest r, id := requestName s.arrivals, peer := clientAddress }

/-- Asks who sends a request that has arrived. -/
def authenticate (s : GatewaySession) (a : Arrival) : Tenant.Verdict × GatewaySession :=
  let (verdict, tenants) := s.tenants.authenticate (Tenant.credential? a.request.headers)
  (verdict, { s with tenants, arrivals := s.arrivals + 1 }.runTo tenants.now)

/-- Finds out whose a request is and which backend it is for, unless that ends it. -/
def identify (s : GatewaySession) (r : Request) : (Identified ⊕ Exchange) × GatewaySession :=
  let a := s.arrival r
  let began := s.now
  let (verdict, s) := s.authenticate a
  match Stage.afterAuthentication s.services a verdict with
  | .counting d => (.inl { arrival := a, direction := d, began }, s)
  | stage =>
    let (x, s) := s.conclude a began none stage
    (.inr x, s)

/-- Asks the limiter about a request of a tenant. -/
def consult (s : GatewaySession) (tenant : Tenant.Record) :
    Option (Except RateLimit.LimiterError RateLimit.Admission) × GatewaySession :=
  let (admission, limits) := s.limits.admissionIn s.windows tenant.organization tenant.quota s.wall
  (admission, { s with limits }.runTo limits.now)

/-- Counts a request and sends it to its backend, unless the limiter ends it. -/
def count (s : GatewaySession) (i : Identified) : (Pending ⊕ Exchange) × GatewaySession :=
  let (admission, s) := s.consult i.direction.tenant
  match Stage.afterCounting i.direction admission with
  | .forwarding d decision =>
    let call := Call.send s.backends (d.outgoing i.arrival) s.requestTimeout
    (.inl {
      arrival := i.arrival, direction := d, decision, began := i.began
      due := s.now + call.took, call }, s)
  | stage =>
    let (x, s) := s.conclude i.arrival i.began none stage
    (.inr x, s)

/-- Takes a request as far as its backend, or to its end. -/
def begin (s : GatewaySession) (r : Request) : (Pending ⊕ Exchange) × GatewaySession :=
  match s.identify r with
  | (.inl i, s) => s.count i
  | (.inr x, s) => (.inr x, s)

/-- The usage event of a request whose backend is done. -/
def event? (s : GatewaySession) (p : Pending) : Option Usage.Event :=
  let millis := UInt64.ofNat (s.now.since p.began).wholeMillis
  p.direction.event? p.arrival p.call.result millis s.wall

/-- Ends a request whose backend is done: it is metered and answered. -/
def settle (s : GatewaySession) (p : Pending) : Exchange × GatewaySession :=
  let result := p.call.result
  let usage :=
    match s.event? p with
    | some e => (s.usage.record e).2
    | none => s.usage
  let took := p.call.took.nanos.toFloat / 1e9
  let s := { s with usage }.report
    [Pipeline.forwardingMeasurement p.direction.service result took]
  let (x, s) := s.conclude p.arrival p.began p.call.sighting
    (.afterForwarding p.direction p.decision result)
  (x, { s with usage := s.usage.poll })

/-- A request with nothing else going on. -/
def exchange (s : GatewaySession) (r : Request) : Exchange × GatewaySession :=
  match s.begin r with
  | (.inl p, s) => (s.runTo p.due).settle p
  | (.inr x, s) => (x, s)

/-- Stops the refresh loop and drains the emitter; each may use the grace. -/
def stopParts (s : GatewaySession) : GatewaySession :=
  let tenants := s.tenants.shutdown s.grace
  let s := { s with tenants }.runTo tenants.now
  let (_, usage) := s.usage.closeAfterTurn s.grace
  { s with usage }.runTo usage.now

/-- Shuts the gateway down while a request waits for its backend. It is let finish within the grace;
if it takes longer it is still answered, but what it has used is no longer recorded. -/
def shutdownDuring (s : GatewaySession) (p : Pending) : Exchange × GatewaySession :=
  let s := { s with stopping := true }
  let limit := s.now + s.grace
  if p.due ≤ limit then
    let (x, s) := (s.runTo p.due).settle p
    (x, s.stopParts)
  else
    let s := (s.runTo limit).stopParts
    (s.runTo (if s.now < p.due then p.due else s.now)).settle p

/-- Shuts the gateway down, after a last request if there is one: the shutdown begins as soon as a
backend has that request. -/
def shutdown (s : GatewaySession) : Option Request → Option Exchange × GatewaySession
  | none => (none, s.stopParts)
  | some r =>
    match s.begin r with
    | (.inl p, s) =>
      let (x, s) := s.shutdownDuring p
      (some x, s)
    | (.inr x, s) => (some x, s.stopParts)

end GatewaySession

end TenantGateway.Simulation
