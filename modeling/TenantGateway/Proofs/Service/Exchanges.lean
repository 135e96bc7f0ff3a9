import TenantGateway.Proofs.Pipeline.Calls
import TenantGateway.Proofs.Service.Parts
import TenantGateway.Simulation.Conversation

/-! Whatever is asked of a session of a whole gateway until it is shut down, it comes to where a run
of the gateway comes. So what it shows on its page of figures reconciles. -/
namespace TenantGateway.Simulation
open Metrics (Registry latest)
open Pipeline (Advance Arrival BackendAnswer Handled Stage)

/-- What becomes of a call is an answer of a backend. -/
theorem Call.exists_answer (backends : List Backend) (r : Net.Request) (deadline : Duration) :
    ∃ answer : BackendAnswer, answer.result = (send backends r deadline).result := by
  cases hresult : (send backends r deadline).result with
  | ok response => exact ⟨.responded response, rfl⟩
  | error e =>
    have hfailure := isBackendFailure_send hresult
    cases e with
    | backendUnavailable reason => exact ⟨.unreachable reason, rfl⟩
    | backendTimeout => exact ⟨.late, rfl⟩
    | _ => cases hfailure

/-- A conversation changes a state only by what it serves. -/
theorem converse_induction {σ : Type} {motive : σ → Prop}
    {serve : σ → Net.Request → Reading.Extent → Served × σ}
    (hserve : ∀ s r extent, motive s → motive (serve s r extent).2) (ended : Bool) (fuel : Nat) :
    ∀ {s : σ} (cs : List Char), motive s → motive (converse serve ended fuel s cs).2 := by
  induction fuel with
  | zero => exact fun _ h => h
  | succ fuel ih =>
    intro s cs h
    unfold converse
    split
    next => exact h
    next => exact h
    next r extent rest _ =>
      have hserved := hserve s r extent h
      generalize serve s r extent = served at hserved
      obtain ⟨response | response | - | -, t⟩ := served
      · simp only
        split
        · exact hserved
        · exact ih rest hserved
      · simp only
        split
        · exact hserved
        · exact ih rest hserved
      · exact hserved
      · exact hserved

namespace GatewaySession

def parts (s : GatewaySession) : Parts := ⟨s.tenants, s.limits, s.usage, s.reports⟩

/-- Some run of the gateway has come to where the session is. -/
structure Reached (settings : Settings) (ps : List Passage) (owed : List Measurement)
    (s : GatewaySession) : Prop where
  services : s.services = settings.services
  parts : s.parts.Reached settings ps owed

variable {settings : Settings} {ps : List Passage} {owed : List Measurement} {s : GatewaySession}
  {c : Nat} {a : Arrival}

private theorem Reached.runTo (h : Reached settings ps owed s) (time : Instant) :
    Reached settings ps owed (s.runTo time) where
  services := h.services
  parts := (((h.parts.setLimitsTime time).waitLoop _).waitEmitter _).poll

private theorem Reached.conclude {began : Instant} {stage : Stage}
    (h : Reached settings ps (Advance.enter a (s.seconds began) stage).reports s)
    (sighting : Option Sighting) :
    Reached settings ps [] (s.conclude a began sighting stage).2 := by
  cases stage with
  | answered service result =>
    have howed := h.parts
    rw [← List.append_nil (Advance.reports _)] at howed
    exact ⟨h.services, howed.pay⟩
  | _ => exact h

private theorem Reached.authenticate (h : Reached settings ps [] s) (a : Arrival)
    (seconds : Float) :
    let next := s.authenticate a
    let stage := Stage.afterAuthentication next.2.services a next.1
    ∃ c, Reached settings (ps ++ [⟨c, a, .reached stage⟩]) (Advance.enter a seconds stage).reports
      next.2 := by
  obtain ⟨c, harrived⟩ := h.parts.arrive a
  have hidentified := harrived.authenticate seconds
  rw [← h.services] at hidentified
  dsimp only at hidentified
  rw [Advance.progress_identify] at hidentified
  refine ⟨c, Reached.runTo (s := { s with
    tenants := (s.tenants.authenticate (Tenant.credential? a.request.headers)).2
    arrivals := s.arrivals + 1 }) ⟨h.services, hidentified⟩ _⟩

/-- A request waits for the limiter, or has come to its end. -/
def WasIdentified (settings : Settings) : (Identified ⊕ Exchange) × GatewaySession → Prop
  | (.inl i, s) => ∃ ps c,
    Reached settings (ps ++ [⟨c, i.arrival, .reached (.counting i.direction)⟩]) [] s
  | (.inr _, s) => ∃ ps, Reached settings ps [] s

private theorem Reached.identify (h : Reached settings ps [] s) (r : Net.Request) :
    WasIdentified settings (s.identify r) := by
  obtain ⟨c, hreached⟩ :=
    h.authenticate (s.arrival r) ((s.authenticate (s.arrival r)).2.seconds s.now)
  rw [GatewaySession.identify]
  dsimp only at hreached ⊢
  generalize Stage.afterAuthentication _ _ _ = stage at hreached
  cases stage with
  | counting d => exact ⟨ps, c, hreached⟩
  | _ => exact ⟨_, hreached.conclude none⟩

/-- A request waits for its backend, or has come to its end. -/
def WasBegun (settings : Settings) : (Pending ⊕ Exchange) × GatewaySession → Prop
  | (.inl p, s) =>
    (∃ answer : BackendAnswer, answer.result = p.call.result) ∧ ∃ ps c,
      Reached settings
        (ps ++ [⟨c, p.arrival, .reached (.forwarding p.direction p.decision)⟩]) [] s
  | (.inr _, s) => ∃ ps, Reached settings ps [] s

private theorem Reached.count {i : Identified}
    (h : Reached settings (ps ++ [⟨c, i.arrival, .reached (.counting i.direction)⟩]) [] s) :
    WasBegun settings (s.count i) := by
  have hconsulted (seconds : Float) :
      let next := s.consult i.direction.tenant
      let stage := Stage.afterCounting i.direction next.1
      Reached settings (ps ++ [⟨c, i.arrival, .reached stage⟩])
        (Advance.enter i.arrival seconds stage).reports next.2 := by
    have hadmitted := h.parts.admission s.windows s.wall seconds
    dsimp only at hadmitted
    rw [Advance.progress_enter] at hadmitted
    exact Reached.runTo (s := { s with limits := (s.limits.admissionIn s.windows
      i.direction.tenant.organization i.direction.tenant.quota s.wall).2 })
      ⟨h.services, hadmitted⟩ _
  have hreached := hconsulted ((s.consult i.direction.tenant).2.seconds i.began)
  rw [GatewaySession.count]
  dsimp only at hreached ⊢
  generalize Stage.afterCounting _ _ = stage at hreached
  cases stage with
  | forwarding d decision => exact ⟨Call.exists_answer _ _ _, ps, c, hreached⟩
  | _ => exact ⟨_, hreached.conclude none⟩

private theorem Reached.begin (h : Reached settings ps [] s) (r : Net.Request) :
    WasBegun settings (s.begin r) := by
  have hidentified := h.identify r
  rw [GatewaySession.begin]
  generalize s.identify r = next at hidentified
  obtain ⟨i | x, t⟩ := next
  · obtain ⟨ps, c, hcounting⟩ := hidentified
    exact hcounting.count
  · exact hidentified

private theorem Reached.settle {p : Pending} {answer : BackendAnswer}
    (h : Reached settings
      (ps ++ [⟨c, p.arrival, .reached (.forwarding p.direction p.decision)⟩]) [] s)
    (hanswer : answer.result = p.call.result) : ∃ ps, Reached settings ps [] (s.settle p).2 := by
  let millis := UInt64.ofNat (s.now.since p.began).wholeMillis
  let handled : Handled := ⟨p.arrival, p.direction, answer, millis, s.wall⟩
  obtain ⟨e, he⟩ := handled.exists_event?
  have hevent : s.event? p = some e := by
    rw [← he, GatewaySession.event?, Handled.event?, hanswer]
  let took := p.call.took.nanos.toFloat / 1e9
  have hforwarding : s.parts.Reached settings
      (ps ++ [⟨c, handled.arrival, .reached (.forwarding handled.direction p.decision)⟩]) [] :=
    h.parts
  have hreplied := hforwarding.reply he took (s.seconds p.began)
  dsimp only [Advance.reply, Advance.after] at hreplied
  rw [Advance.progress_enter, hanswer] at hreplied
  let t := GatewaySession.report { s with usage := (s.usage.record e).2 }
    [Pipeline.forwardingMeasurement p.direction.service p.call.result took]
  have hpaid : Reached settings _ (Advance.enter p.arrival (t.seconds p.began)
      (.afterForwarding p.direction p.decision p.call.result)).reports t :=
    ⟨h.services, hreplied.pay⟩
  have hended := hpaid.conclude p.call.sighting
  rw [GatewaySession.settle, hevent]
  exact ⟨_, hended.services, hended.parts.poll⟩

private theorem Reached.exchange (h : Reached settings ps [] s) (r : Net.Request) :
    ∃ ps, Reached settings ps [] (s.exchange r).2 := by
  have hbegun := h.begin r
  rw [GatewaySession.exchange]
  generalize s.begin r = next at hbegun
  obtain ⟨p | x, t⟩ := next
  · obtain ⟨⟨answer, hanswer⟩, ps, c, hforwarding⟩ := hbegun
    exact (hforwarding.runTo p.due).settle hanswer
  · exact hbegun

private theorem Reached.serve (ended : Bool) (h : Reached settings ps [] s) (r : Net.Request)
    (extent : Reading.Extent) : ∃ ps, Reached settings ps [] (serve ended s r extent).2 := by
  have hbegun := h.begin r
  rw [GatewaySession.serve]
  generalize s.begin r = next at hbegun
  obtain ⟨p | x, t⟩ := next
  · obtain ⟨⟨answer, hanswer⟩, ps, c, hforwarding⟩ := hbegun
    dsimp only
    split
    next => exact ⟨_, hforwarding⟩
    next =>
      split
      next => exact ⟨_, hforwarding⟩
      next => exact (hforwarding.runTo p.due).settle hanswer
  · exact hbegun

private theorem Reached.converse (h : Reached settings ps [] s) (input : String) (ended : Bool) :
    ∃ ps, Reached settings ps [] (s.converse input ended).2 := by
  rw [GatewaySession.converse, conversation]
  split
  next => exact ⟨ps, h⟩
  next =>
    refine converse_induction (motive := fun s => ∃ ps, Reached settings ps [] s) ?_ _ _ _ ⟨ps, h⟩
    rintro t r extent ⟨ps, ht⟩
    exact ht.serve ended r extent

/-- What can be done with a session until it is shut down, and with what it depends on. -/
inductive Deed where
  | exchange (r : Net.Request)
  | converse (input : String) (ended : Bool)
  | runTo (time : Instant)
  | redirect (directory : SlowDirectory) (counters : Counters) (sink : SlowSink)
      (backends : List Backend)

def perform (s : GatewaySession) : Deed → GatewaySession
  | .exchange r => (s.exchange r).2
  | .converse input ended => (s.converse input ended).2
  | .runTo time => s.runTo time
  | .redirect directory counters sink backends =>
    { s with
      tenants := { s.tenants with directory }
      limits := { s.limits with counters }
      usage := { s.usage with sink }
      backends }

private theorem Reached.perform (h : Reached settings ps [] s) (deed : Deed) :
    ∃ ps, Reached settings ps [] (s.perform deed) := by
  cases deed with
  | exchange r => exact h.exchange r
  | converse input ended => exact h.converse input ended
  | runTo time => exact ⟨ps, h.runTo time⟩
  | redirect directory counters sink backends =>
    exact ⟨ps, h.services, h.parts.unseen fun _ htracks => { htracks with }⟩

private theorem reached_ofSettings (settings : Settings) (directory : SlowDirectory)
    (sink : SlowSink) (backends : List Backend) (dailyTtl : UInt64) (wall : Calendar.Timestamp) :
    Reached settings [] [] (ofSettings settings directory sink backends dailyTtl wall) := by
  let tenants := (TenantSession.ofDirectory directory settings.cache.entryTtlSeconds.toNat
    (.ofMillis settings.cache.fetchTimeoutMillis.toNat)).startLoop
      (.ofSeconds settings.cache.refreshSeconds.toNat)
  let usage := { EmitterSession.ofSettings settings.emitter sink.keeps with sink }
  have hstart : Parts.Reached settings [] []
      ⟨tenants, LimiterSession.ofLimiter settings.limiter, usage, []⟩ :=
    ⟨[], rfl, {
      limiter := rfl
      ttl := rfl
      accepting := rfl
      cache := rfl
      loop := rfl
      emitter := rfl
      figures := fun _ _ => rfl
      entries := rfl
      quiet := fun _ hm => absurd hm List.not_mem_nil }⟩
  have hwarm := (hstart.awaitCycle 16).setLimitsTime (tenants.awaitCycle 16).now
  exact ⟨rfl, ((hwarm.poll).waitEmitter _).poll⟩

private theorem reached_of_deeds (settings : Settings) (directory : SlowDirectory) (sink : SlowSink)
    (backends : List Backend) (dailyTtl : UInt64) (wall : Calendar.Timestamp) (deeds : List Deed) :
    ∃ ps, Reached settings ps []
      (deeds.foldl perform (ofSettings settings directory sink backends dailyTtl wall)) := by
  induction deeds using List.reverseRecOn with
  | nil => exact ⟨[], reached_ofSettings ..⟩
  | append_singleton deeds deed ih =>
    obtain ⟨ps, h⟩ := ih
    rw [List.foldl_append]
    exact h.perform deed

/-- The registry that a session's page of figures shows. -/
def registry (s : GatewaySession) : Registry := Registry.initial.recordAll s.allReports

/-- A session has the figures of a gateway, and those of its refresh loop and its emitter. -/
structure Shows (s : GatewaySession) (g : Gateway) : Prop where
  loop : s.tenants.custody = .looping g.loop
  emitter : s.usage.emitter = g.usage.books.emitter
  sums : ∀ i selector, i.kind = .counter →
    s.registry.sum i selector = g.registry.sum i selector
  entries : s.registry.value? ⟨.cacheEntries, []⟩ = g.registry.value? ⟨.cacheEntries, []⟩

private theorem Reached.shows (h : Reached settings ps [] s) :
    ∃ events, (Gateway.run settings events).Reconciled ∧ s.Shows (Gateway.run settings events) := by
  obtain ⟨events, -, htracks⟩ := h.parts
  obtain ⟨journal, hjournal⟩ := Gateway.exists_journalled_run settings events
  refine ⟨events, hjournal.reconciled, htracks.loop, htracks.emitter.symm, ?_, ?_⟩
  · intro i selector hi
    rw [registry, Gateway.registry, Registry.sum_recordAll hi, Registry.sum_recordAll hi]
    simp only [allReports, Gateway.allReports, Metrics.total_append, Metrics.total_reverse,
      htracks.figures, htracks.emitter, GatewaySession.parts, Metrics.total_nil, UInt64.add_zero]
    ac_rfl
  · have husage : latest ⟨.cacheEntries, []⟩ s.usage.emitter.reports.reverse = none := by
      refine Metrics.latest_of_isUsage fun m hm => hjournal.usage.own m ?_
      rw [htracks.emitter]
      exact List.mem_reverse.mp hm
    have hlimits : latest ⟨.cacheEntries, []⟩ s.limits.reports.reverse = none := by
      refine Metrics.latest_eq_none_iff.mpr fun m hm => htracks.quiet m ?_
      exact List.mem_append_left _ (List.mem_append_left _ (List.mem_reverse.mp hm))
    have hown : latest ⟨.cacheEntries, []⟩ s.reports.reverse = none := by
      refine Metrics.latest_eq_none_iff.mpr fun m hm => htracks.quiet m ?_
      exact List.mem_append_left _ (List.mem_append_right _ (List.mem_reverse.mp hm))
    rw [registry, Gateway.registry, Registry.value?_recordAll rfl rfl,
      Registry.value?_recordAll rfl rfl, allReports, Gateway.allReports]
    simp only [Metrics.latest_append, htracks.emitter, GatewaySession.parts, husage, hlimits, hown,
      htracks.entries, Option.none_or]

/-- Whatever has been done with a session, it shows the figures of a run of the gateway, and they
reconcile there. -/
theorem shows_of_deeds (settings : Settings) (directory : SlowDirectory) (sink : SlowSink)
    (backends : List Backend) (dailyTtl : UInt64) (wall : Calendar.Timestamp) (deeds : List Deed) :
    let s := deeds.foldl perform (ofSettings settings directory sink backends dailyTtl wall)
    ∃ events, (Gateway.run settings events).Reconciled ∧ s.Shows (Gateway.run settings events) := by
  obtain ⟨ps, h⟩ := reached_of_deeds settings directory sink backends dailyTtl wall deeds
  exact h.shows

end GatewaySession

end TenantGateway.Simulation
