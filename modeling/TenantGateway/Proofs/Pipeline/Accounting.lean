import TenantGateway.Proofs.Pipeline.Requests
import TenantGateway.Proofs.Pipeline.Traffic
import Mathlib.Data.List.Induction
import Mathlib.Data.List.Perm.Basic

/-! Nobody is charged for a request that is refused, and every other request is charged once: counted,
sent to its backend and offered to the usage emitter. The steps of a request are taken from any state;
the totals of a run follow by an induction over its moves. -/
namespace TenantGateway.Simulation
open Net (Request Response)
open RateLimit (MemoryStore)

namespace GatewaySession

/-- What the steps of a request do from a state. -/
structure Lawful (s : GatewaySession) : Prop where
  /-- Refused for its caller, its path or its address: nothing has been touched. Without an answer it
  is only where the clock cannot represent the end of its caller's entry. -/
  unidentified : ∀ r x t, s.identify r = (.inr x, t) →
    t.limits.counters = s.limits.counters ∧ t.usage.emitter.offered = s.usage.emitter.offered ∧
      x.sighting = none ∧
      (∀ response, x.response = some response →
        ∃ refusal, isEarly refusal ∧ response.status = refusal.status) ∧
      (x.response = none → ¬(t.now + Duration.ofSeconds s.tenants.ttlSeconds).InRange)
  identified : ∀ r i t, s.identify r = (.inl i, t) →
    t.limits.counters = s.limits.counters ∧ t.usage.emitter.offered = s.usage.emitter.offered ∧
      i.arrival = s.arrival r ∧
      ∃ entry, (s.authenticate (s.arrival r)).1 = .granted entry ∧
        i.direction.tenant = entry.record
  /-- Refused by the limiter: no read of a counter can tell. Without an answer it is only where the
  clock cannot represent the end of a counter. -/
  limited : ∀ i x t, s.count i = (.inr x, t) →
    t.usage.emitter.offered = s.usage.emitter.offered ∧ x.sighting = none ∧
      (∀ response, x.response = some response →
        MemoryStore.Unchanged s.limits.now s.limits.counters.memory t.limits.counters.memory ∧
          (response.status = 429 ∨
            response.status = 503 ∧ s.limits.limiter.policy = .failClosed)) ∧
      (x.response = none → ¬(s.question i.direction.tenant).InRange s.limits.now)
  /-- Let through: counted once, unless the store is out of order, and sent to its backend. -/
  sent : ∀ i p t, s.count i = (.inl p, t) →
    t.usage.emitter.offered = s.usage.emitter.offered ∧ p.arrival = i.arrival ∧
      p.direction = i.direction ∧
      p.call = Call.send s.backends (p.direction.outgoing p.arrival) s.requestTimeout ∧
      ((p.decision.isSome ∧ MemoryStore.CountedOnce (s.question i.direction.tenant) s.limits.now
          s.limits.counters.memory t.limits.counters.memory) ∨
        (p.decision = none ∧ s.limits.limiter.policy = .failOpen ∧
          t.limits.counters.memory = s.limits.counters.memory))
  /-- Done with by its backend: billed once, as it is answered. -/
  settled : ∀ p : Pending, p.Sent → ∃ response e,
    (s.settle p).1.response = some response ∧ (s.settle p).1.sighting = p.call.sighting ∧
      s.event? p = some e ∧ p.Billed response e ∧
      (s.settle p).2.usage = (s.usage.record e).2.poll ∧
      (s.settle p).2.limits = s.limits

end GatewaySession

/-- Whose a request is, and what is charged for. -/
structure Charge where
  requestId : String
  organization : String
  keyId : String
  endpoint : String
  deriving DecidableEq

namespace Charge

def ofPending (p : Pending) : Charge :=
  ⟨p.arrival.id, p.direction.tenant.organization, p.direction.tenant.keyId,
    p.arrival.request.target.path⟩

def ofEvent (e : Usage.Event) : Charge := ⟨e.requestId, e.organization, e.keyId, e.endpoint⟩

private theorem ofEvent_of_billed {p : Pending} {response : Response} {e : Usage.Event}
    (h : p.Billed response e) : ofEvent e = ofPending p := by
  rw [ofEvent, ofPending, h.requestId, h.organization, h.keyId, h.endpoint]

end Charge

namespace Traffic

/-- The totals of a run that began with the gateway `s`. -/
structure Totals (s : GatewaySession) (b : Traffic) : Prop where
  /-- Every call to a backend is billed once, or its backend is not done yet. -/
  charges : (b.sent.map Charge.ofPending).Perm
    (b.billed.map Charge.ofEvent ++ b.pending.map Charge.ofPending)
  /-- The emitter has been offered the billed events and no others. -/
  offers : b.gateway.usage.emitter.offers = s.usage.emitter.offers + b.billed.length
  /-- Only where the policy lets requests through has one been sent that was not counted. -/
  counted : ∀ p ∈ b.sent, p.decision.isSome ∨ s.limits.limiter.policy = .failOpen
  pending : ∀ p ∈ b.pending, p.Sent

structure Kept (s : GatewaySession) (b : Traffic) : Prop extends Totals s b where
  inMemory : b.gateway.limits.InMemory
  limiter : b.gateway.limits.limiter = s.limits.limiter
  named : ∀ i ∈ b.identified, ∃ n, i.arrival.id = requestName n

variable {s : GatewaySession} {b : Traffic}

private theorem kept_open (hs : s.limits.InMemory) : Kept s (open_ s) where
  charges := .refl _
  offers := rfl
  counted := by simp [open_]
  pending := by simp [open_]
  inMemory := hs
  limiter := rfl
  named := by simp [open_]

private theorem Kept.moved (h : Kept s b) {g : GatewaySession} {identified : List Identified}
    (hoffered : g.usage.emitter.offered = b.gateway.usage.emitter.offered)
    (hmemory : g.limits.InMemory) (hlimiter : g.limits.limiter = b.gateway.limits.limiter)
    (hnamed : ∀ i ∈ identified, ∃ n, i.arrival.id = requestName n) :
    Kept s { b with gateway := g, identified } :=
  { h with
    offers := by
      rw [Usage.Emitter.offers_eq_of_offered hoffered]
      exact h.offers
    inMemory := hmemory
    limiter := hlimiter.trans h.limiter
    named := hnamed }

private theorem Kept.arrive (h : Kept s b) (r : Request) : Kept s (b.arrive r) := by
  have hmemory : ∀ g : GatewaySession, g.limits.counters = b.gateway.limits.counters →
      g.limits.InMemory := by
    intro g hg
    rw [LimiterSession.InMemory, hg]
    exact h.inMemory
  have hlimiter := GatewaySession.limiter_identify b.gateway r
  rw [Traffic.arrive]
  split
  next i g hi =>
    obtain ⟨hcounters, hoffered, harrival, -⟩ := GatewaySession.identify_granted hi
    rw [hi] at hlimiter
    refine h.moved hoffered (hmemory g hcounters) hlimiter ?_
    intro j hj
    rcases List.mem_append.mp hj with hj | hj
    · exact h.named j hj
    · rw [List.mem_singleton.mp hj, harrival]
      exact ⟨_, rfl⟩
  next x g hx =>
    obtain ⟨hcounters, hoffered, -⟩ := GatewaySession.identify_refused hx
    rw [hx] at hlimiter
    exact h.moved hoffered (hmemory g hcounters) hlimiter h.named

private theorem Kept.count (h : Kept s b) (place : Nat) : Kept s (b.count place) := by
  rw [Traffic.count]
  split
  next => exact h
  next i hi =>
    have hname := h.named i (List.mem_of_getElem? hi)
    have hrest : ∀ j ∈ b.identified.eraseIdx place, ∃ n, j.arrival.id = requestName n :=
      fun j hj => h.named j (List.mem_of_mem_eraseIdx hj)
    have hmemory := GatewaySession.inMemory_count h.inMemory i
    have hlimiter := GatewaySession.limiter_count b.gateway i
    simp only
    split
    next p g hp =>
      obtain ⟨hoffered, harrival, -, hcall, hcounted⟩ := GatewaySession.count_sent h.inMemory hp
      rw [hp] at hmemory hlimiter
      exact { h.moved hoffered hmemory hlimiter hrest with
        charges := by
          rw [List.map_append, List.map_append, ← List.append_assoc]
          exact h.charges.append_right _
        counted := by
          intro q hq
          rcases List.mem_append.mp hq with hq | hq
          · exact h.counted q hq
          · rw [List.mem_singleton.mp hq, ← h.limiter]
            rcases hcounted with ⟨hsome, -⟩ | ⟨-, hpolicy, -⟩
            · exact .inl hsome
            · exact .inr hpolicy
        pending := by
          intro q hq
          rcases List.mem_append.mp hq with hq | hq
          · exact h.pending q hq
          · rw [List.mem_singleton.mp hq]
            exact ⟨harrival ▸ hname, _, _, hcall⟩ }
    next x g hx =>
      obtain ⟨hoffered, -⟩ := GatewaySession.count_refused h.inMemory hx
      rw [hx] at hmemory hlimiter
      exact h.moved hoffered hmemory hlimiter hrest

private theorem Kept.settle (h : Kept s b) (place : Nat) : Kept s (b.settle place) := by
  rw [Traffic.settle]
  split
  next => exact h
  next p hp =>
    obtain ⟨response, e, -, -, hevent, hbilled, husage, hlimits⟩ :=
      b.gateway.settle_billed (h.pending p (List.mem_of_getElem? hp))
    obtain ⟨hplace, hget⟩ := List.getElem?_eq_some_iff.mp hp
    have htaken : b.pending.Perm (p :: b.pending.eraseIdx place) := by
      rw [← hget]
      exact (List.getElem_cons_eraseIdx_perm hplace).symm
    simp only [hevent, Option.toList_some]
    exact { h with
      charges := by
        refine h.charges.trans ?_
        rw [List.map_append, List.append_assoc, List.map_singleton, Charge.ofEvent_of_billed hbilled]
        exact (htaken.map Charge.ofPending).append_left _
      offers := by
        rw [husage, Usage.Emitter.offers_eq_of_offered (EmitterSession.offered_poll _),
          List.length_append, List.length_singleton, ← Nat.add_assoc, ← h.offers]
        exact Usage.Emitter.offers_record _ _
      pending := fun q hq => h.pending q (List.mem_of_mem_eraseIdx hq)
      inMemory := by
        rw [hlimits]
        exact h.inMemory
      limiter := by
        rw [hlimits]
        exact h.limiter }

private theorem Kept.step (h : Kept s b) (m : Move) : Kept s (b.step m) := by
  cases m with
  | arrive r => exact h.arrive r
  | count place => exact h.count place
  | settle place => exact h.settle place
  | elapse t => exact h.moved (b.gateway.offered_runTo t) h.inMemory rfl h.named
  | surround o => exact h.moved rfl h.inMemory rfl h.named

private theorem kept_run (hs : s.limits.InMemory) (moves : List Move) : Kept s (run s moves) := by
  induction moves using List.reverseRecOn with
  | nil => exact kept_open hs
  | append_singleton moves m ih =>
    rw [run_snoc]
    exact ih.step m

end Traffic

end TenantGateway.Simulation
