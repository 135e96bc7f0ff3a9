import TenantGateway.Proofs.Metrics.Reconciliation
import TenantGateway.Proofs.Tenant.Sessions
import TenantGateway.Simulation.Gateway

/-! The parts of a session on a virtual clock, followed by a run of the gateway. Each thing that a
part does is some events of the gateway: a turn of the refresh loop or of the emitter's worker, or a
step of a request. What the parts report is what the gateway reports, though not in its order. -/
namespace TenantGateway
open Metrics (latest total)
open Pipeline (Advance Arrival Handled Stage)
open Tenant (RefreshLoop)

namespace Pipeline.Advance

variable (services : List Service) (a : Arrival) (v : Tenant.Verdict) (seconds : Float)

/-- A request comes to the stage that it enters. -/
theorem progress_enter (stage : Stage) : (enter a seconds stage).progress = .reached stage := by
  cases stage <;> rfl

/-- An identified request comes to the stage after authentication. -/
theorem progress_identify :
    (identify services a v seconds).progress = .reached (.afterAuthentication services a v) :=
  progress_enter a seconds _

variable {services} {a} {v} {seconds}
variable {credential : String} {c : Tenant.Cache} {now : Instant} {ms : List Measurement}

/-- A cache that settles who the caller is identifies the request at once. -/
theorem inquire_of_done (h : Tenant.credential? a.request.headers = some credential)
    (hfound : c.inquire credential now = (.done v, ms)) :
    ∃ notes, inquire services c a now seconds = (identify services a v seconds).after ms notes := by
  simp only [inquire, h, hfound]
  exact ⟨_, rfl⟩

/-- Otherwise the request waits for the directory. -/
theorem inquire_of_ask {f : Tenant.Fingerprint} {stale : Option Tenant.Entry}
    (h : Tenant.credential? a.request.headers = some credential)
    (hfound : c.inquire credential now = (.ask f stale, ms)) :
    ∃ notes, inquire services c a now seconds = ⟨.asking f stale, ms ++ [], notes⟩ := by
  simp only [inquire, h, hfound, List.append_nil]
  exact ⟨_, rfl⟩

end Pipeline.Advance

/-- A connection is accepted, and a request comes over it. -/
theorem Gateway.foldl_arrive (g : Gateway) (settings : Settings)
    (h : g.tracking.tracker.shuttingDown = false) (a : Arrival) :
    [.connect, .arrive g.tracking.guards.length a].foldl (step settings) g =
      { g with
        tracking := { g.tracking with
          tracker := { g.tracking.tracker with active := g.tracking.tracker.active + 1 }
          guards := g.tracking.guards ++ [.held] }
        passages := g.passages ++ [⟨g.tracking.guards.length, a, .arrived⟩] } := by
  have haccept : g.tracking.tracker.accept? =
      some { g.tracking.tracker with active := g.tracking.tracker.active + 1 } := by
    simp only [ConnectionTracker.accept?, h]
    rfl
  have hheld : (g.tracking.guards ++ [Guard.held])[g.tracking.guards.length]? = some .held :=
    List.getElem?_concat_length
  simp only [List.foldl_cons, List.foldl_nil, step, Tracking.step, haccept, hheld, if_true]

namespace Simulation

namespace TenantSession

variable {s : TenantSession} {credential : String} {ms : List Measurement}

private theorem authenticate_of_done {v : Tenant.Verdict}
    (h : (s.runThrough s.now).cache.inquire credential (s.runThrough s.now).now = (.done v, ms)) :
    s.authenticate (some credential) = (v, (s.runThrough s.now).report ms) := by
  simp only [authenticate, h]

-- The session when the directory answers.
private def asked (s : TenantSession) (ms : List Measurement) : TenantSession :=
  let s := (s.runThrough s.now).report ms
  s.runThrough (s.now + s.directory.delay)

private theorem authenticate_of_ask {f : Tenant.Fingerprint} {stale : Option Tenant.Entry}
    (h : (s.runThrough s.now).cache.inquire credential (s.runThrough s.now).now =
      (.ask f stale, ms)) :
    ∃ answer directory, s.authenticate (some credential) =
      let t := s.asked ms
      let (v, cache) := t.cache.settle t.ttlSeconds f stale t.now answer
      (v, report { t with directory, cache } v.measurements) := by
  refine ⟨((s.asked ms).directory.fetchOne f).1, ((s.asked ms).directory.fetchOne f).2, ?_⟩
  simp only [authenticate, h]
  rfl

end TenantSession

/-- What a gateway sees of a session. -/
structure Parts where
  tenants : TenantSession
  limits : LimiterSession
  usage : EmitterSession
  reports : List Measurement

namespace Parts

/-- A gateway has come to where a session is. Some measurements may be owed, which the gateway has
reported and the session is about to. -/
structure Tracks (settings : Settings) (owed : List Measurement) (s : Parts) (g : Gateway) :
    Prop where
  limiter : s.limits.limiter = settings.limiter
  ttl : s.tenants.ttlSeconds = settings.cache.entryTtlSeconds.toNat
  accepting : g.tracking.tracker.shuttingDown = false
  cache : g.cache = s.tenants.cache
  loop : s.tenants.custody = .looping g.loop
  emitter : g.usage.books.emitter = s.usage.emitter
  figures : ∀ i selector, total i selector g.reports =
    total i selector (s.tenants.reports ++ s.limits.reports ++ s.reports ++ owed)
  entries : latest ⟨.cacheEntries, []⟩ g.reports =
    latest ⟨.cacheEntries, []⟩ s.tenants.reports.reverse
  quiet : ∀ m ∈ s.limits.reports ++ s.reports ++ owed, latest ⟨.cacheEntries, []⟩ [m] = none

/-- Some run of the gateway has come to where the session is, with its requests at some places. -/
def Reached (settings : Settings) (passages : List Passage) (owed : List Measurement) (s : Parts) :
    Prop :=
  ∃ events, (Gateway.run settings events).passages = passages ∧
    s.Tracks settings owed (Gateway.run settings events)

section Steps

variable {settings : Settings} {ps ps' : List Passage} {owed owed' paid : List Measurement}
  {s t : Parts}

private theorem Reached.step (h : Reached settings ps owed s) (e : Gateway.Event)
    (hnext : ∀ g, g.passages = ps → s.Tracks settings owed g →
      (g.step settings e).passages = ps' ∧ t.Tracks settings owed' (g.step settings e)) :
    Reached settings ps' owed' t := by
  obtain ⟨events, hpassages, htracks⟩ := h
  refine ⟨events ++ [e], ?_⟩
  rw [Gateway.run_concat]
  exact hnext _ hpassages htracks

/-- A change that the gateway does not see. -/
theorem Reached.unseen (h : Reached settings ps owed s)
    (hnext : ∀ g, s.Tracks settings owed g → t.Tracks settings owed' g) :
    Reached settings ps owed' t := by
  obtain ⟨events, hpassages, htracks⟩ := h
  exact ⟨events, hpassages, hnext _ htracks⟩

private theorem Reached.limiter (h : Reached settings ps owed s) :
    s.limits.limiter = settings.limiter := by
  obtain ⟨events, -, htracks⟩ := h
  exact htracks.limiter

end Steps

section Work

variable {settings : Settings} {ps : List Passage} {owed paid : List Measurement}
  {u : TenantSession} {l : LimiterSession} {m : EmitterSession}
  {reports : List Measurement}

/-! What is owed is reported by one part of the session or another. -/

/-- Measurements that were owed are reported. -/
theorem Reached.pay (h : Reached settings ps (paid ++ owed) ⟨u, l, m, reports⟩) :
    Reached settings ps owed ⟨u, l, m, paid.reverse ++ reports⟩ := by
  refine h.unseen fun g htracks => { htracks with figures := ?_, quiet := ?_ }
  · intro i selector
    simp only [htracks.figures, Metrics.total_append, Metrics.total_reverse]
    ac_rfl
  · intro r hr
    refine htracks.quiet r ?_
    simp only [List.mem_append, List.mem_reverse] at hr ⊢
    tauto

private theorem Reached.payLimits
    (h : Reached settings ps (paid ++ owed) ⟨u, l, m, reports⟩) :
    Reached settings ps owed
      ⟨u, { l with reports := paid.reverse ++ l.reports }, m, reports⟩ := by
  refine h.unseen fun g htracks => { htracks with figures := ?_, quiet := ?_ }
  · intro i selector
    simp only [htracks.figures, Metrics.total_append, Metrics.total_reverse]
    ac_rfl
  · intro r hr
    refine htracks.quiet r ?_
    simp only [List.mem_append, List.mem_reverse] at hr ⊢
    tauto

private theorem Reached.payTenants
    (h : Reached settings ps (paid ++ owed) ⟨u, l, m, reports⟩) :
    Reached settings ps owed ⟨u.report paid, l, m, reports⟩ := by
  refine h.unseen fun g htracks => { htracks with figures := ?_, entries := ?_, quiet := ?_ }
  · intro i selector
    simp only [htracks.figures, TenantSession.report, Metrics.total_append, Metrics.total_reverse]
    ac_rfl
  · have hpaid : latest ⟨.cacheEntries, []⟩ paid = none := by
      refine Metrics.latest_eq_none_iff.mpr fun r hr => htracks.quiet r ?_
      simp only [List.mem_append]
      tauto
    rw [htracks.entries, TenantSession.report, List.reverse_append, List.reverse_reverse,
      Metrics.latest_append, hpaid, Option.none_or]
  · intro r hr
    refine htracks.quiet r ?_
    simp only [List.mem_append] at hr ⊢
    tauto

/-! The refresh loop. -/

private theorem Reached.turnLoop (h : Reached settings ps owed ⟨u, l, m, reports⟩)
    {loop : RefreshLoop} (hlooping : u.custody = .looping loop) (now : Instant) :
    Reached settings ps owed
      ⟨{ u with custody := .looping (loop.turn now) }, l, m, reports⟩ := by
  refine h.step (.turnLoop now) fun g hpassages htracks => ⟨hpassages, ?_⟩
  obtain rfl : g.loop = loop := Custody.looping.inj (htracks.loop.symm.trans hlooping)
  exact { htracks with loop := rfl }

private theorem Reached.endFetch (h : Reached settings ps owed ⟨u, l, m, reports⟩)
    {loop : RefreshLoop} (hlooping : u.custody = .looping loop)
    (answer : Except Tenant.RefreshError Tenant.Snapshot) (directory : SlowDirectory) :
    let ended := loop.settle u.cache u.now answer
    Reached settings ps owed
      ⟨TenantSession.report
          { u with directory, custody := .looping ended.1, cache := ended.2.1, inFlight := none }
          ended.2.2,
        l, m, reports⟩ := by
  refine h.step (.refresh u.now answer) fun g hpassages htracks => ⟨hpassages, ?_⟩
  obtain rfl : g.loop = loop := Custody.looping.inj (htracks.loop.symm.trans hlooping)
  rw [Gateway.step, htracks.cache]
  exact {
    htracks with
    cache := rfl
    loop := rfl
    figures := by
      intro i selector
      simp only [TenantSession.report, Metrics.total_append, Metrics.total_reverse,
        htracks.figures]
      ac_rfl
    entries := by
      simp only [TenantSession.report, List.reverse_append, List.reverse_reverse,
        Metrics.latest_append, htracks.entries] }

private theorem Reached.stepLoop (h : Reached settings ps owed ⟨u, l, m, reports⟩)
    {v : TenantSession} (hstep : u.step? = some v) :
    Reached settings ps owed ⟨v, l, m, reports⟩ := by
  obtain ⟨loop, hlooping, ⟨-, rfl⟩ | ⟨-, -, rfl⟩ | ⟨f, answer, directory, -, -, -, -, rfl⟩⟩ :=
    TenantSession.step?_cases hstep
  · exact h.turnLoop hlooping _
  · exact h.unseen fun _ htracks => { htracks with }
  · exact h.endFetch hlooping answer directory

private theorem Reached.setLoopTime (h : Reached settings ps owed ⟨u, l, m, reports⟩)
    (now : Instant) : Reached settings ps owed ⟨{ u with now }, l, m, reports⟩ :=
  h.unseen fun _ htracks => { htracks with }

private theorem Reached.runWhile (h : Reached settings ps owed ⟨u, l, m, reports⟩)
    (soon : Instant → Bool) (fuel : Nat) :
    Reached settings ps owed ⟨u.runWhile soon fuel, l, m, reports⟩ := by
  induction fuel generalizing u with
  | zero => exact h
  | succ fuel ih =>
    unfold TenantSession.runWhile
    split
    next v hstep => exact ih (h.stepLoop hstep)
    next =>
      split
      next due hdue =>
        split
        next => exact ih (h.setLoopTime due)
        next => exact h
      next => exact h

private theorem Reached.runThrough (h : Reached settings ps owed ⟨u, l, m, reports⟩)
    (target : Instant) :
    Reached settings ps owed ⟨u.runThrough target, l, m, reports⟩ :=
  (h.runWhile _ _).setLoopTime target

/-- While time passes, the refresh loop takes its turns. -/
theorem Reached.waitLoop (h : Reached settings ps owed ⟨u, l, m, reports⟩)
    (span : Duration) : Reached settings ps owed ⟨u.wait span, l, m, reports⟩ := by
  unfold TenantSession.wait
  split
  · exact h
  · exact (h.runWhile _ _).setLoopTime _

/-- The first cycle is some turns of the refresh loop. -/
theorem Reached.awaitCycle (h : Reached settings ps owed ⟨u, l, m, reports⟩)
    (fuel : Nat) : Reached settings ps owed ⟨u.awaitCycle fuel, l, m, reports⟩ := by
  induction fuel generalizing u with
  | zero => exact h
  | succ fuel ih =>
    unfold TenantSession.awaitCycle
    split
    next =>
      split
      next => exact h
      next =>
        split
        next v hstep => exact ih (h.stepLoop hstep)
        next due hstep hdue => exact ih (h.setLoopTime due)
        next => exact h
    next => exact h

/-! The emitter. -/

private theorem Reached.stepEmitter (h : Reached settings ps owed ⟨u, l, m, reports⟩)
    {n : EmitterSession} (hstep : m.step? = some n) :
    Reached settings ps owed ⟨u, l, n, reports⟩ := by
  rcases EmitterSession.step?_cases hstep with
    ⟨-, hsame⟩ | ⟨a, ha, -, hact⟩ | ⟨start, batch, -, rfl⟩
  · exact h.unseen fun g htracks => { htracks with emitter := htracks.emitter.trans hsame.symm }
  · refine h.step (.emitter (.turn a ha)) fun g hpassages htracks => ⟨hpassages, ?_⟩
    exact {
      htracks with
      emitter := by
        rw [hact, ← htracks.emitter]
        exact Usage.Books.emitter_step .. }
  · have hsettled := m.emitter_settle start
    generalize (m.sink.publish start m.emitter.worker.batch).1 = taken at hsettled
    refine h.step (.emitter (.answer taken m.now)) fun g hpassages htracks => ⟨hpassages, ?_⟩
    exact {
      htracks with
      emitter := by
        rw [hsettled, ← htracks.emitter]
        exact Usage.Books.emitter_step .. }

private theorem Reached.setEmitterTime
    (h : Reached settings ps owed ⟨u, l, m, reports⟩) (now : Instant) :
    Reached settings ps owed ⟨u, l, { m with now }, reports⟩ :=
  h.unseen fun _ htracks => { htracks with }

private theorem Reached.runEmitter (h : Reached settings ps owed ⟨u, l, m, reports⟩)
    (target : Instant) (fuel : Nat) :
    Reached settings ps owed ⟨u, l, m.runBefore target fuel, reports⟩ := by
  induction fuel generalizing m with
  | zero => exact h
  | succ fuel ih =>
    unfold EmitterSession.runBefore
    split
    next n hstep => exact ih (h.stepEmitter hstep)
    next =>
      split
      next due hdue =>
        split
        next => exact ih (h.setEmitterTime due)
        next => exact h
      next => exact h

/-- What the emitter has to do at once is some turns of its worker. -/
theorem Reached.poll (h : Reached settings ps owed ⟨u, l, m, reports⟩) :
    Reached settings ps owed ⟨u, l, m.poll, reports⟩ := h.runEmitter _ _

/-- While time passes, the emitter's worker takes its turns. -/
theorem Reached.waitEmitter (h : Reached settings ps owed ⟨u, l, m, reports⟩)
    (span : Duration) : Reached settings ps owed ⟨u, l, m.wait span, reports⟩ := by
  unfold EmitterSession.wait
  split
  · exact h
  · exact (h.runEmitter _ _).setEmitterTime _

/-- The gateway does not see the limiter's clock. -/
theorem Reached.setLimitsTime
    (h : Reached settings ps owed ⟨u, l, m, reports⟩) (now : Instant) :
    Reached settings ps owed ⟨u, { l with now }, m, reports⟩ :=
  h.unseen fun _ htracks => { htracks with }

end Work

/-! A request on its way. It is the last to have arrived, and takes one step after the other. -/

section Request

variable {settings : Settings} {ps : List Passage} {s : Parts} {u : TenantSession}
  {l : LimiterSession} {m : EmitterSession} {reports : List Measurement} {c : Nat} {a : Arrival}

/-- A request arrives over a new connection. -/
theorem Reached.arrive {owed : List Measurement} (h : Reached settings ps owed s)
    (a : Arrival) : ∃ c, Reached settings (ps ++ [⟨c, a, .arrived⟩]) owed s := by
  obtain ⟨events, hpassages, htracks⟩ := h
  let c := (Gateway.run settings events).tracking.guards.length
  refine ⟨c, events ++ [.connect, .arrive c a], ?_⟩
  rw [Gateway.run_append, Gateway.foldl_arrive _ settings htracks.accepting a, hpassages]
  exact ⟨rfl, { htracks with }⟩

private theorem Reached.extend {p : Passage} {x : Advance} {n : EmitterSession}
    (h : Reached settings (ps ++ [p]) [] ⟨u, l, m, reports⟩) (e : Gateway.Event)
    (cache : Tenant.Cache) (hquiet : latest ⟨.cacheEntries, []⟩ x.reports = none)
    (hstep : ∀ g : Gateway, g.passages[ps.length]? = some p → g.cache = u.cache →
      g.usage.books.emitter = m.emitter →
        ∃ usage handled offers, usage.books.emitter = n.emitter ∧
          g.step settings e =
            ({ g with cache, usage, handled, offers } : Gateway).advance ps.length p x) :
    Reached settings (ps ++ [{ p with progress := x.progress }]) x.reports
      ⟨{ u with cache }, l, n, reports⟩ := by
  refine h.step e fun g hpassages htracks => ?_
  have hplace : g.passages[ps.length]? = some p := by
    rw [hpassages]
    exact List.getElem?_concat_length
  obtain ⟨usage, handled, offers, hemitter, hnext⟩ :=
    hstep g hplace htracks.cache htracks.emitter
  rw [hnext]
  refine ⟨?_, {
    htracks with
    cache := rfl
    emitter := hemitter
    figures := ?_
    entries := ?_
    quiet := ?_ }⟩
  · simp [Gateway.advance, hpassages]
  · intro i selector
    simp only [Gateway.advance, Metrics.total_append, htracks.figures, Metrics.total_nil,
      UInt64.add_zero]
  · simp only [Gateway.advance, Metrics.latest_append, hquiet, htracks.entries, Option.none_or]
  · intro r hr
    rcases List.mem_append.mp hr with hr | hr
    · exact htracks.quiet r (List.mem_append_left _ hr)
    · exact Metrics.latest_eq_none_iff.mp hquiet r hr

private theorem Reached.advance {p : Passage} {x : Advance}
    (h : Reached settings (ps ++ [p]) [] ⟨u, l, m, reports⟩) (e : Gateway.Event)
    (cache : Tenant.Cache)
    (hnext : Advance.Next settings.services settings.limiter p.arrival p.progress x)
    (hstep : ∀ g : Gateway, g.passages[ps.length]? = some p → g.cache = u.cache →
      g.step settings e = ({ g with cache } : Gateway).advance ps.length p x) :
    Reached settings (ps ++ [{ p with progress := x.progress }]) x.reports
      ⟨{ u with cache }, l, m, reports⟩ := by
  obtain ⟨os, hos⟩ := Pipeline.Advance.tells_of_next hnext
  refine h.extend e cache ?_ fun g hplace hcache hemitter =>
    ⟨g.usage, g.handled, g.offers, hemitter, hstep g hplace hcache⟩
  rw [hos.reports]
  refine Occurrence.latest_flatMap fun o ho => Occurrence.latest_entries ?_
  exact (Occurrence.counts_of_isPlain (List.all_eq_true.mp hos.plain o ho)).2

private theorem Reached.inquire
    (h : Reached settings (ps ++ [⟨c, a, .arrived⟩]) [] ⟨u, l, m, reports⟩) (seconds : Float) :
    let x := Advance.inquire settings.services u.cache a u.now seconds
    Reached settings (ps ++ [⟨c, a, x.progress⟩]) x.reports ⟨u, l, m, reports⟩ := by
  refine h.advance (.inquire ps.length u.now seconds) u.cache (.inquired u.cache u.now seconds)
    fun g hplace hcache => ?_
  rw [Gateway.step, hplace, ← hcache]

private theorem Reached.ttl (h : Reached settings ps [] ⟨u, l, m, reports⟩) :
    u.ttlSeconds = settings.cache.entryTtlSeconds.toNat := by
  obtain ⟨events, -, htracks⟩ := h
  exact htracks.ttl

private theorem Reached.learn {f : Tenant.Fingerprint} {stale : Option Tenant.Entry}
    (h : Reached settings (ps ++ [⟨c, a, .asking f stale⟩]) [] ⟨u, l, m, reports⟩)
    (answer : Except Tenant.DirectoryError (Option Tenant.Record)) (seconds : Float) :
    let found := u.cache.settle u.ttlSeconds f stale u.now answer
    let x := Advance.learn settings.services a found.1 seconds
    Reached settings (ps ++ [⟨c, a, x.progress⟩]) x.reports
      ⟨{ u with cache := found.2 }, l, m, reports⟩ := by
  refine h.advance (.learn ps.length answer u.now seconds) _ (.learned ..) fun g hplace hcache => ?_
  rw [Gateway.step, hplace, hcache, h.ttl]

/-- The caller is told apart from a stranger, or not. -/
theorem Reached.authenticate
    (h : Reached settings (ps ++ [⟨c, a, .arrived⟩]) [] ⟨u, l, m, reports⟩) (seconds : Float) :
    let next := u.authenticate (Tenant.credential? a.request.headers)
    let x := Advance.identify settings.services a next.1 seconds
    Reached settings (ps ++ [⟨c, a, x.progress⟩]) x.reports ⟨next.2, l, m, reports⟩ := by
  have hinquired := (h.runThrough u.now).inquire seconds
  dsimp only at hinquired ⊢
  cases hcredential : Tenant.credential? a.request.headers with
  | none =>
    rw [Advance.inquire, hcredential] at hinquired
    exact hinquired.payTenants
  | some credential =>
    rcases hfound : (u.runThrough u.now).cache.inquire credential (u.runThrough u.now).now with
      ⟨next, ms⟩
    cases next with
    | done v =>
      obtain ⟨notes, hx⟩ := Advance.inquire_of_done hcredential hfound
      rw [hx] at hinquired
      rw [TenantSession.authenticate_of_done hfound]
      exact hinquired.payTenants
    | ask f stale =>
      obtain ⟨notes, hx⟩ := Advance.inquire_of_ask hcredential hfound
      rw [hx] at hinquired
      obtain ⟨answer, directory, hauthenticate⟩ := TenantSession.authenticate_of_ask hfound
      have hasked : Reached settings (ps ++ [⟨c, a, .asking f stale⟩]) []
          ⟨u.asked ms, l, m, reports⟩ := hinquired.payTenants.runThrough _
      rw [hauthenticate]
      exact (hasked.learn answer seconds).payTenants.unseen fun _ htracks => { htracks with }

/-- The limiter has decided on the request, or the call has broken off. -/
theorem Reached.admission {d : Pipeline.Direction}
    (h : Reached settings (ps ++ [⟨c, a, .reached (.counting d)⟩]) [] ⟨u, l, m, reports⟩)
    (w : Windows) (time : Calendar.Timestamp) (seconds : Float) :
    let next := l.admissionIn w d.tenant.organization d.tenant.quota time
    let x := Advance.enter a seconds (.afterCounting d next.1)
    Reached settings (ps ++ [⟨c, a, x.progress⟩]) x.reports ⟨u, next.2, m, reports⟩ := by
  rcases hcall : l.counters.call w (l.limiter.query d.tenant.organization d.tenant.quota time) l.now
    with ⟨delay, reply, counters⟩
  have hcounted := h.advance (.count ps.length time delay reply seconds) u.cache
    (.counted d time delay reply seconds) fun g hplace hcache => by
      rw [Gateway.step, hplace, ← hcache]
  rw [Advance.count, ← h.limiter] at hcounted
  rcases hsettle : l.limiter.settle (l.limiter.query d.tenant.organization d.tenant.quota time) time
    delay reply with ⟨r | -, took⟩
  · simp only [LimiterSession.admissionIn, LimiterSession.settle, hcall, hsettle]
    simp only [hsettle] at hcounted
    exact hcounted.payLimits.unseen fun _ htracks => { htracks with }
  · simp only [LimiterSession.admissionIn, LimiterSession.settle, hcall, hsettle]
    simp only [hsettle] at hcounted
    exact hcounted.unseen fun _ htracks => { htracks with }

/-- The request is offered to the emitter, and answered. -/
theorem Reached.reply {handled : Handled} {decision : Option RateLimit.Decision}
    {e : Usage.Event}
    (h : Reached settings
      (ps ++ [⟨c, handled.arrival, .reached (.forwarding handled.direction decision)⟩]) []
      ⟨u, l, m, reports⟩)
    (hmetered : handled.event? = some e) (took seconds : Float) :
    let x := Advance.reply handled decision took seconds
    Reached settings (ps ++ [⟨c, handled.arrival, x.progress⟩]) x.reports
      ⟨u, l, (m.record e).2, reports⟩ := by
  obtain ⟨method, status, service, hreports, -⟩ := Advance.tells_reply handled decision took seconds
  refine h.extend (.reply ps.length handled.answer handled.millis handled.time took seconds)
    u.cache ?_ fun g hplace hcache hemitter => ?_
  · rw [hreports]
    refine Occurrence.latest_flatMap fun o ho => Occurrence.latest_entries ?_
    simp only [List.mem_cons, List.not_mem_nil, or_false] at ho
    rcases ho with rfl | rfl <;> rfl
  · obtain ⟨e', he', hmeter⟩ := g.meter_eq handled
    obtain rfl : e = e' := Option.some.inj (hmetered.symm.trans he')
    refine ⟨g.usage.step (.offer e), g.handled ++ [handled],
      g.offers ++ [⟨e, g.usage.books.emitter.reception⟩], ?_, ?_⟩
    · rw [Usage.Closing.step, Usage.Books.emitter_step, hemitter]
      rfl
    · rw [Gateway.step, hplace]
      dsimp only
      rw [hmeter, ← hcache]
      rfl

end Request

end Parts

end Simulation

end TenantGateway
