import TenantGateway.Proofs.Pipeline.Calls
import TenantGateway.Proofs.RateLimit.Admission
import TenantGateway.Proofs.Tenant.Misses
import TenantGateway.Proofs.Usage.Offers

/-! The three steps of a request through the gateway, each from any state: what it does to counters,
to backends and to the usage emitter. -/
namespace TenantGateway.Simulation
open Net (Request Response)
open Pipeline (Arrival Direction Stage)

/-- A refusal that comes before the limiter is asked: of the caller, of the path, or of an address
that is none. -/
def isEarly : Refusal → Bool
  | .authMissing | .authInvalid | .authUnavailable _ | .unknownService _ | .badRequest _ => true
  | _ => false

private theorem afterAuthentication_cases (services : List Service) (a : Arrival)
    (v : Tenant.Verdict) :
    (∃ entry d, v = .granted entry ∧ d.tenant = entry.record ∧
        Stage.afterAuthentication services a v = .counting d) ∨
      (∃ service refusal, isEarly refusal ∧
        Stage.afterAuthentication services a v = .answered service (.error refusal)) ∨
      v = .deadlineOverflow ∧ Stage.afterAuthentication services a v = .brokenOff := by
  cases v with
  | granted entry =>
    simp only [Stage.afterAuthentication, Pipeline.direct]
    split
    next d hd =>
      refine .inl ⟨entry, d, rfl, ?_, rfl⟩
      split at hd
      · cases hd
      · split at hd
        · cases hd
          rfl
        · cases hd
    next service refusal hrefusal =>
      refine .inr (.inl ⟨service, refusal, ?_, rfl⟩)
      split at hrefusal
      · cases hrefusal
        rfl
      · split at hrefusal
        · cases hrefusal
        · cases hrefusal
          rfl
  | denied e =>
    refine .inr (.inl ⟨none, .ofAuthError e, ?_, rfl⟩)
    cases e <;> rfl
  | deadlineOverflow => exact .inr (.inr ⟨rfl, rfl⟩)

namespace GatewaySession

/-- Time that passes offers the emitter nothing. -/
theorem offered_runTo (s : GatewaySession) (t : Instant) :
    (s.runTo t).usage.emitter.offered = s.usage.emitter.offered := by
  simp only [runTo]
  rw [EmitterSession.offered_poll, EmitterSession.offered_wait]

/-- The answer to a request leaves the limiter alone. -/
@[simp] theorem limits_conclude (s : GatewaySession) (a : Arrival) (began : Instant)
    (sighting : Option Sighting) (stage : Stage) :
    (s.conclude a began sighting stage).2.limits = s.limits := by
  cases stage <;> rfl

private theorem counters_authenticate (s : GatewaySession) (a : Arrival) :
    (s.authenticate a).2.limits.counters = s.limits.counters := rfl

private theorem offered_authenticate (s : GatewaySession) (a : Arrival) :
    (s.authenticate a).2.usage.emitter.offered = s.usage.emitter.offered := by
  rw [authenticate, offered_runTo]

/-- A request without a tenant or a backend address leaves the counters and the emitter alone, and is
answered unless the entry of its caller would have to end where the clock does not reach. -/
theorem identify_refused {s t : GatewaySession} {r : Request} {x : Exchange}
    (h : s.identify r = (.inr x, t)) :
    t.limits.counters = s.limits.counters ∧ t.usage.emitter.offered = s.usage.emitter.offered ∧
      x.sighting = none ∧
      (∀ response, x.response = some response →
        ∃ refusal, isEarly refusal ∧ response.status = refusal.status) ∧
      (x.response = none → ¬(t.now + Duration.ofSeconds s.tenants.ttlSeconds).InRange) := by
  simp only [identify] at h
  rcases afterAuthentication_cases (s.authenticate (s.arrival r)).2.services (s.arrival r)
      (s.authenticate (s.arrival r)).1 with
    ⟨entry, d, -, -, hstage⟩ | ⟨service, refusal, hearly, hstage⟩ | ⟨hverdict, hstage⟩
  · rw [hstage] at h
    cases h
  · rw [hstage] at h
    cases h
    refine ⟨counters_authenticate s _, offered_authenticate s _, rfl, ?_, nofun⟩
    intro response hresponse
    cases hresponse
    exact ⟨refusal, hearly, rfl⟩
  · rw [hstage] at h
    cases h
    exact ⟨counters_authenticate s _, offered_authenticate s _, rfl, nofun,
      fun _ => TenantSession.not_inRange_of_authenticate hverdict⟩

/-- A request that goes on to be counted has an entry for its caller, and nothing has been counted or
offered yet. -/
theorem identify_granted {s t : GatewaySession} {r : Request} {i : Identified}
    (h : s.identify r = (.inl i, t)) :
    t.limits.counters = s.limits.counters ∧ t.usage.emitter.offered = s.usage.emitter.offered ∧
      i.arrival = s.arrival r ∧
      ∃ entry, (s.authenticate (s.arrival r)).1 = .granted entry ∧
        i.direction.tenant = entry.record := by
  simp only [identify] at h
  rcases afterAuthentication_cases (s.authenticate (s.arrival r)).2.services (s.arrival r)
      (s.authenticate (s.arrival r)).1 with
    ⟨entry, d, hentry, htenant, hstage⟩ | ⟨service, refusal, -, hstage⟩ | ⟨-, hstage⟩
  · rw [hstage] at h
    cases h
    exact ⟨counters_authenticate s _, offered_authenticate s _, rfl, entry, hentry, htenant⟩
  · rw [hstage] at h
    cases h
  · rw [hstage] at h
    cases h

/-- What the counters are asked about a request of a tenant. -/
def question (s : GatewaySession) (tenant : Tenant.Record) : RateLimit.CounterQuery :=
  s.windows.query (s.limits.limiter.query tenant.organization tenant.quota s.wall)

private theorem consult_admitted {s : GatewaySession} (hs : s.limits.InMemory)
    (tenant : Tenant.Record) :
    (s.consult tenant).2.limits.InMemory ∧
      s.limits.Admitted (s.question tenant) (s.consult tenant).1
        (s.consult tenant).2.limits.counters.memory :=
  LimiterSession.admissionIn_admitted hs s.windows tenant.organization tenant.quota s.wall

private theorem offered_consult (s : GatewaySession) (tenant : Tenant.Record) :
    (s.consult tenant).2.usage.emitter.offered = s.usage.emitter.offered := by
  rw [consult, offered_runTo]

/-- A request that the limiter turns away changes no count, and reaches neither a backend nor the
emitter. It is answered unless a counter would have to end where the clock does not reach. -/
theorem count_refused {s t : GatewaySession} {i : Identified} {x : Exchange}
    (hs : s.limits.InMemory) (h : s.count i = (.inr x, t)) :
    t.usage.emitter.offered = s.usage.emitter.offered ∧ x.sighting = none ∧
      (∀ response, x.response = some response →
        RateLimit.MemoryStore.Unchanged s.limits.now s.limits.counters.memory
            t.limits.counters.memory ∧
          (response.status = 429 ∨
            response.status = 503 ∧ s.limits.limiter.policy = .failClosed)) ∧
      (x.response = none → ¬(s.question i.direction.tenant).InRange s.limits.now) := by
  have hoffered := s.offered_consult i.direction.tenant
  have hadmitted := (consult_admitted hs i.direction.tenant).2
  simp only [count] at h
  generalize (s.consult i.direction.tenant).1 = admission at h hadmitted
  cases hadmitted with
  | counted hcounted => cases h
  | denied hunchanged =>
    cases h
    refine ⟨hoffered, rfl, ?_, nofun⟩
    intro response hresponse
    cases hresponse
    exact ⟨hunchanged, .inl rfl⟩
  | skipped hpolicy hmemory => cases h
  | refused hpolicy hmemory =>
    cases h
    refine ⟨hoffered, rfl, ?_, nofun⟩
    intro response hresponse
    cases hresponse
    refine ⟨?_, .inr ⟨rfl, hpolicy⟩⟩
    intro key later _
    exact congrArg (fun m => RateLimit.MemoryStore.get? m key later) hmemory
  | brokenOff hends =>
    cases h
    exact ⟨hoffered, rfl, nofun, fun _ => hends⟩

/-- A request that goes to its backend has been counted once in both windows, or the store was out
of order and the policy lets requests through. -/
theorem count_sent {s t : GatewaySession} {i : Identified} {p : Pending}
    (hs : s.limits.InMemory) (h : s.count i = (.inl p, t)) :
    t.usage.emitter.offered = s.usage.emitter.offered ∧ p.arrival = i.arrival ∧
      p.direction = i.direction ∧
      p.call = Call.send s.backends (p.direction.outgoing p.arrival) s.requestTimeout ∧
      ((p.decision.isSome ∧ RateLimit.MemoryStore.CountedOnce (s.question i.direction.tenant)
          s.limits.now s.limits.counters.memory t.limits.counters.memory) ∨
        (p.decision = none ∧ s.limits.limiter.policy = .failOpen ∧
          t.limits.counters.memory = s.limits.counters.memory)) := by
  have hoffered := s.offered_consult i.direction.tenant
  have hadmitted := (consult_admitted hs i.direction.tenant).2
  simp only [count] at h
  generalize (s.consult i.direction.tenant).1 = admission at h hadmitted
  cases hadmitted with
  | counted hcounted =>
    cases h
    exact ⟨hoffered, rfl, rfl, rfl, .inl ⟨rfl, hcounted⟩⟩
  | denied hunchanged => cases h
  | skipped hpolicy hmemory =>
    cases h
    exact ⟨hoffered, rfl, rfl, rfl, .inr ⟨rfl, hpolicy, hmemory⟩⟩
  | refused hpolicy hmemory => cases h
  | brokenOff hends => cases h

/-- The counters stay in memory. -/
theorem inMemory_count {s : GatewaySession} (hs : s.limits.InMemory) (i : Identified) :
    (s.count i).2.limits.InMemory := by
  have hconsult := (consult_admitted hs i.direction.tenant).1
  simp only [count]
  split
  · exact hconsult
  · simp only [limits_conclude]
    exact hconsult

/-- The steps of a request leave the limiter's settings as they are. -/
theorem limiter_identify (s : GatewaySession) (r : Request) :
    (s.identify r).2.limits.limiter = s.limits.limiter := by
  simp only [identify]
  split
  · rfl
  · simp only [limits_conclude]
    rfl

/-- Counting leaves the limiter's settings as they are. -/
theorem limiter_count (s : GatewaySession) (i : Identified) :
    (s.count i).2.limits.limiter = s.limits.limiter := by
  have hconsult : (s.consult i.direction.tenant).2.limits.limiter = s.limits.limiter :=
    LimiterSession.limiter_admissionIn _ _ _ _ _
  simp only [count]
  split
  · exact hconsult
  · simp only [limits_conclude]
    exact hconsult

end GatewaySession

/-- The call of a pending request is the request's own, under the name that it has been given. -/
structure Pending.Sent (p : Pending) : Prop where
  name : ∃ n, p.arrival.id = requestName n
  call : ∃ backends deadline, p.call = Call.send backends (p.direction.outgoing p.arrival) deadline

/-- An event bills a request: whose it was, what it asked for, and what its client was answered. The
client, the backend and the event know the request by one name. -/
structure Pending.Billed (p : Pending) (response : Response) (e : Usage.Event) : Prop where
  organization : e.organization = p.direction.tenant.organization
  keyId : e.keyId = p.direction.tenant.keyId
  endpoint : e.endpoint = p.arrival.request.target.path
  method : e.method = p.arrival.request.method
  status : e.status = response.status
  billable : e.billable = (200 ≤ response.status && response.status < 500)
  requestId : e.requestId = p.arrival.id
  toClient : response.headers.getAll "x-request-id" = [e.requestId]
  toBackend : ∀ seen, p.call.sighting = some seen →
    seen.headers.getAll "x-request-id" = [e.requestId]

private theorem status_withLimits (a : Arrival) (decision : Option RateLimit.Decision)
    (result : Except Refusal Response) :
    (a.response (result.map (Stage.withLimits decision))).status = (a.response result).status := by
  cases result with
  | error e => rfl
  | ok r => cases decision <;> rfl

private theorem meteredStatus?_eq (a : Arrival) {result : Except Refusal Response}
    (h : ∀ e, result = .error e → e.isBackendFailure) :
    Pipeline.meteredStatus? result = some (a.response result).status := by
  cases result with
  | ok r => rfl
  | error e => exact if_pos (h e rfl)

/-- A request whose backend is done is offered to the emitter once, as what its client is told. -/
theorem GatewaySession.settle_billed (s : GatewaySession) {p : Pending} (hp : p.Sent) :
    ∃ response e,
      (s.settle p).1.response = some response ∧ (s.settle p).1.sighting = p.call.sighting ∧
        s.event? p = some e ∧ p.Billed response e ∧
        (s.settle p).2.usage = (s.usage.record e).2.poll ∧
        (s.settle p).2.limits = s.limits := by
  obtain ⟨⟨n, hname⟩, backends, deadline, hcall⟩ := hp
  have hvalid : Headers.isValue p.arrival.id := hname ▸ isValue_requestName n
  have hfailure : ∀ e, p.call.result = .error e → e.isBackendFailure := by
    intro e he
    rw [hcall] at he
    exact Call.isBackendFailure_send he
  let response := Wire.deliverResponse p.arrival.request s.stopping
    (p.arrival.response (p.call.result.map (Stage.withLimits p.decision)))
  let e := Usage.Event.metered p.arrival.id p.direction.tenant.organization
    p.direction.tenant.keyId p.arrival.request.target.path p.arrival.request.method
    (p.arrival.response p.call.result).status
    (UInt64.ofNat (s.now.since p.began).wholeMillis) s.wall
  have hsame : e.status = response.status :=
    (status_withLimits p.arrival p.decision p.call.result).symm
  have hevent : s.event? p = some e := by
    simp only [event?, Direction.event?, meteredStatus?_eq p.arrival hfailure, Option.map_some, e]
  refine ⟨response, e, rfl, rfl, hevent, ?_, ?_, rfl⟩
  · exact {
      organization := rfl
      keyId := rfl
      endpoint := rfl
      method := rfl
      status := hsame
      billable := by
        rw [← hsame]
        rfl
      requestId := rfl
      toClient := by
        refine (Wire.getAll_deliverResponse _ _ _ (by decide) (by decide)).trans ?_
        exact Headers.getAll_setValid_self _ hvalid
      toBackend := by
        intro seen hseen
        rw [hcall] at hseen
        exact Call.requestId_send hname hseen }
  · simp only [settle, hevent]
    rfl

end TenantGateway.Simulation
