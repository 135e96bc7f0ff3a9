import TenantGateway.Proofs.Metrics.Sums
import TenantGateway.Proofs.Pipeline.Occurrences
import TenantGateway.Proofs.Service.Gateway
import TenantGateway.Proofs.Usage.Reports

/-! The metrics of a gateway reconcile with what its parts have counted themselves, and with what
has happened to its requests. All of these are figures of one journal of occurrences, which each step
of the gateway extends; what a figure of the metrics has of one occurrence is what the other side
counts of it. -/
namespace TenantGateway
open Metrics (Effect Instrument Labels Series effects latest tally total)
open Pipeline (Arrival Direction Handled Note)
open RateLimit (Decision Limiter LimiterError)
open Tenant (AuthError Lookup)

namespace Occurrence

/-- The figures of all occurrences add up. -/
theorem tally_reports {figures : List (Instrument × Labels)} {count : Occurrence → Nat}
    (h : ∀ o, tally figures o.reports = .ofNat (count o)) (journal : List Occurrence) :
    tally figures (journal.flatMap reports) = .ofNat (journal.map count).sum := by
  induction journal with
  | nil => exact Metrics.tally_nil
  | cons o journal ih =>
    rw [List.flatMap_cons, Metrics.tally_append, h, ih, List.map_cons, List.sum_cons,
      UInt64.ofNat_add]

private theorem tally_reports_eq_countP {figures : List (Instrument × Labels)} {p : Note → Bool}
    (h : ∀ o : Occurrence, tally figures o.reports = .ofNat (o.notes.countP p))
    (journal : List Occurrence) :
    tally figures (journal.flatMap reports) = .ofNat ((journal.flatMap notes).countP p) := by
  rw [tally_reports h, List.countP_flatMap]
  rfl

/-- Occurrences by what is reported of them. -/
@[elab_as_elim]
theorem byReport {motive : Occurrence → Prop} (lookedUp : ∀ found, motive (.lookedUp found))
    (failed : ∀ e, motive (.failed e)) (misdirected : ∀ e h, motive (.misdirected e h))
    (called : motive .called)
    (allowed : ∀ d seconds, motive (.decided (.ok (.allowed d)) seconds))
    (denied : ∀ d seconds, motive (.decided (.ok (.denied d)) seconds))
    (degraded : ∀ reason seconds, motive (.decided (.ok (.degraded reason)) seconds))
    (unavailable : ∀ e seconds, motive (.decided (.error e) seconds))
    (undecided : motive .undecided)
    (responded : ∀ a d r millis time seconds,
      motive (.returned ⟨a, d, .responded r, millis, time⟩ seconds))
    (unreachable : ∀ a d reason millis time seconds,
      motive (.returned ⟨a, d, .unreachable reason, millis, time⟩ seconds))
    (late : ∀ a d millis time seconds, motive (.returned ⟨a, d, .late, millis, time⟩ seconds))
    (completed : ∀ method status service seconds,
      motive (.completed method status service seconds))
    (refreshed : ∀ entries, motive (.refreshed entries)) (unrefreshed : motive .unrefreshed)
    (o : Occurrence) : motive o := by
  cases o with
  | lookedUp found => exact lookedUp found
  | failed e => exact failed e
  | misdirected e h => exact misdirected e h
  | called => exact called
  | decided r seconds =>
    rcases r with e | (d | d | reason)
    · exact unavailable e seconds
    · exact allowed d seconds
    · exact denied d seconds
    · exact degraded reason seconds
  | undecided => exact undecided
  | returned h seconds =>
    obtain ⟨a, d, answer, millis, time⟩ := h
    cases answer with
    | responded r => exact responded a d r millis time seconds
    | unreachable reason => exact unreachable a d reason millis time seconds
    | late => exact late a d millis time seconds
  | completed method status service seconds => exact completed method status service seconds
  | refreshed entries => exact refreshed entries
  | unrefreshed => exact unrefreshed

private theorem tally_lookups (o : Occurrence) :
    tally [(.cacheLookups, [("result", "hit")]), (.cacheLookups, [("result", "miss")]),
      (.cacheLookups, [("result", "expired")])] o.reports =
      .ofNat (o.notes.countP Note.isIdentifying) := by
  cases o using byReport with
  | lookedUp found => cases found <;> rfl
  | _ => rfl

private theorem tally_authFailures (reason : String) (o : Occurrence) :
    tally [(.authFailures, [("reason", reason)])] o.reports =
      .ofNat (o.notes.countP (Note.isFailure reason)) := by
  cases o using byReport with
  | failed e =>
    by_cases hreason : e.code = reason <;>
      simp [reports, notes, tally, total, effects, Effect.amount, Series.isOf, Note.isFailure,
        hreason, eq_comm (a := reason)]
  | _ => rfl

private theorem tally_authErrors (e : AuthError) (o : Occurrence) :
    tally [(.errors, [("error_type", e.code)])] o.reports =
      .ofNat (o.notes.countP (Note.isFailure e.code)) := by
  -- No other refusal has the code of an authentication that has failed.
  cases o using byReport with
  | failed reason => cases e <;> cases reason <;> rfl
  | misdirected refusal h =>
    rcases h with h | h
    all_goals
      simp only [reports, h]
      cases e <;> rfl
  | _ => cases e <;> rfl

private theorem tally_decisions (o : Occurrence) :
    tally [(.rateLimitDecisions, [])] o.reports = .ofNat (o.notes.countP Note.isDecided) := by
  cases o using byReport with
  | denied d =>
    cases hexceeded : d.exceeded <;>
      simp [reports, notes, tally, total, effects, Effect.amount, Series.isOf, Note.isDecided,
        Limiter.measurement, hexceeded, errorsOf, Refusal.ofAdmission]
  | _ => rfl

private theorem tally_denials (o : Occurrence) :
    tally [(.rateLimitDecisions, [("result", "denied")])] o.reports =
      .ofNat (o.notes.countP Note.isDenial) := by
  cases o using byReport with
  | denied d =>
    cases hexceeded : d.exceeded <;>
      simp [reports, notes, tally, total, effects, Effect.amount, Series.isOf, Note.isDenial,
        Limiter.measurement, hexceeded, errorsOf, Refusal.ofAdmission]
  | _ => rfl

private theorem tally_limitErrors (o : Occurrence) :
    tally [(.errors, [("error_type", "rate_limit_exceeded")])] o.reports =
      .ofNat (o.notes.countP Note.isDenial) := by
  cases o using byReport with
  | failed e => cases e <;> rfl
  | misdirected refusal h =>
    rcases h with h | h
    all_goals
      simp only [reports, h]
      rfl
  | _ => rfl

private theorem tally_requests (o : Occurrence) :
    tally [(.requests, [])] o.reports = .ofNat (o.notes.countP Note.isCompleted) := by
  cases o using byReport with
  | _ => rfl

/-- The events that the emitter is offered with it. -/
def offers : Occurrence → Nat
  | .returned .. => 1
  | _ => 0

def successes : Occurrence → Nat
  | .refreshed _ => 1
  | _ => 0

def failures : Occurrence → Nat
  | .unrefreshed => 1
  | _ => 0

private theorem tally_backends (o : Occurrence) :
    tally [(.backendRequests, []), (.backendErrors, [])] o.reports = .ofNat o.offers := by
  cases o using byReport with
  | _ => rfl

private theorem tally_refreshes (o : Occurrence) :
    tally [(.cacheRefreshes, [("result", "ok")])] o.reports = .ofNat o.successes ∧
      tally [(.cacheRefreshes, [("result", "failed")])] o.reports = .ofNat o.failures := by
  cases o using byReport with
  | _ => exact ⟨rfl, rfl⟩

private theorem tally_usage (selector : Labels) (o : Occurrence) :
    tally [(.usageEvents, selector)] o.reports = 0 ∧
      tally [(.usageBatches, selector)] o.reports = 0 := by
  cases o using byReport with
  | _ => exact ⟨rfl, rfl⟩

/-- It is the end of a refresh cycle. -/
def isCycle : Occurrence → Bool
  | .refreshed _ | .unrefreshed => true
  | _ => false

/-- A plain occurrence offers no event and ends no cycle. -/
theorem counts_of_isPlain {o : Occurrence} (h : o.isPlain = true) :
    o.offers = 0 ∧ o.isCycle = false := by
  cases o with
  | returned | refreshed | unrefreshed => cases h
  | _ => exact ⟨rfl, rfl⟩

private theorem counts_of_not_isCycle {o : Occurrence} (h : o.isCycle = false) :
    o.successes = 0 ∧ o.failures = 0 := by
  cases o with
  | refreshed | unrefreshed => cases h
  | _ => exact ⟨rfl, rfl⟩

private theorem sum_eq_zero {count : Occurrence → Nat} {os : List Occurrence}
    (h : ∀ o ∈ os, count o = 0) : (os.map count).sum = 0 := by
  induction os with
  | nil => rfl
  | cons o os ih =>
    rw [List.map_cons, List.sum_cons, h o List.mem_cons_self,
      ih fun o' ho' => h o' (List.mem_cons_of_mem _ ho')]

/-- Only the end of a cycle reports the size of the cache. -/
theorem latest_entries {o : Occurrence} (h : o.isCycle = false) :
    latest ⟨.cacheEntries, []⟩ o.reports = none := by
  cases o using byReport with
  | refreshed | unrefreshed => cases h
  | _ => rfl

/-- What no occurrence of a journal has reported is not in its reports. -/
theorem latest_flatMap {s : Series} {os : List Occurrence}
    (h : ∀ o ∈ os, latest s o.reports = none) : latest s (os.flatMap reports) = none := by
  refine Metrics.latest_eq_none_iff.mpr fun m hm => ?_
  obtain ⟨o, ho, hm⟩ := List.mem_flatMap.mp hm
  exact Metrics.latest_eq_none_iff.mp (h o ho) m hm

end Occurrence

namespace Gateway

/-- All that has been reported. -/
def allReports (g : Gateway) : List Measurement :=
  g.reports ++ g.usage.books.emitter.reports.reverse

/-- The registry in which all reports have been recorded. -/
def registry (g : Gateway) : Metrics.Registry := Metrics.Registry.initial.recordAll g.allReports

/-- The calls of the limiter that have not come to an end. -/
def waiting (g : Gateway) : Nat := g.passages.countP fun p => p.progress.isCounting

/-- A journal of occurrences has all that a gateway has reported and counted. -/
structure Journalled (g : Gateway) (journal : List Occurrence) : Prop where
  reports : g.reports = journal.flatMap Occurrence.reports
  notes : g.notes = journal.flatMap Occurrence.notes
  calls : g.notes.countP Note.isAdmitting =
    g.notes.countP Note.isDecided + g.notes.countP Note.isUndecided + g.waiting
  offers : g.usage.books.emitter.offers = (journal.map Occurrence.offers).sum
  successes : g.loop.refresher.stats.successfulCycles = (journal.map Occurrence.successes).sum
  failures : g.loop.refresher.stats.failedCycles = (journal.map Occurrence.failures).sum
  entries : latest ⟨.cacheEntries, []⟩ g.reports =
    if g.loop.refresher.stats.successfulCycles = 0 then none
    else some (.ofNat g.loop.refresher.stats.last.total)
  usage : g.usage.books.emitter.Reported

variable {s : Settings} {g g' : Gateway} {journal : List Occurrence}

private theorem journalled_start (s : Settings) : (start s).Journalled [] where
  reports := rfl
  notes := rfl
  calls := rfl
  offers := rfl
  successes := rfl
  failures := rfl
  entries := rfl
  usage := Usage.Emitter.reported_ofSettings s.emitter

private theorem waiting_set {place : Nat} {p q : Passage} (h : g.passages[place]? = some p) :
    (g.passages.set place q).countP (fun p => p.progress.isCounting) + p.progress.isCounting.toNat =
      g.waiting + q.progress.isCounting.toNat := by
  obtain ⟨hplace, hp⟩ := List.getElem?_eq_some_iff.mp h
  have hcount := List.boole_getElem_le_countP (p := fun p : Passage => p.progress.isCounting) hplace
  rw [List.countP_set hplace, waiting]
  rw [hp] at hcount ⊢
  cases hcounting : p.progress.isCounting <;> cases q.progress.isCounting <;>
    simp_all

private theorem stats_turn (l : Tenant.RefreshLoop) (now : Instant) :
    (l.turn now).refresher.stats = l.refresher.stats := by
  rcases l.turn_cases now with hsame | ⟨-, ⟨-, hstop⟩ | ⟨-, -, hbreak⟩ | ⟨-, tick, hbegin⟩⟩
  · rw [hsame]
  · rw [hstop]
    rfl
  · rw [hbreak]
  · rw [hbegin]
    rfl

private theorem stats_abort (l : Tenant.RefreshLoop) :
    l.abort.refresher.stats = l.refresher.stats := by
  rw [Tenant.RefreshLoop.abort]
  split <;> rfl

private theorem settle_cases (l : Tenant.RefreshLoop) (c : Tenant.Cache) (now : Instant)
    (answer : Except Tenant.RefreshError Tenant.Snapshot) :
    ((l.settle c now answer).1.refresher.stats = l.refresher.stats ∧
        (l.settle c now answer).2.2 = []) ∨
      ((l.settle c now answer).1.refresher.stats = l.refresher.fail.stats ∧
        (l.settle c now answer).2.2 = Occurrence.unrefreshed.reports) ∨
      ∃ d, (l.settle c now answer).1.refresher.stats = (l.refresher.succeed d now).stats ∧
        (l.settle c now answer).2.2 = (Occurrence.refreshed d.total).reports := by
  rw [Tenant.RefreshLoop.settle]
  split
  next tick hphase =>
    rcases l.refresher.complete_cases c now answer with
      ⟨e, -, hend⟩ | ⟨snapshot, entries, -, hend, -⟩ | ⟨snapshot, -, -, hend⟩
    all_goals simp only [hend]
    · exact .inr (.inl ⟨trivial, rfl⟩)
    · exact .inr (.inr ⟨_, rfl, rfl⟩)
    · exact .inl ⟨trivial, rfl⟩
  next => exact .inl ⟨rfl, rfl⟩

private theorem Journalled.extended (h : g.Journalled journal) {os : List Occurrence}
    (hos : ∀ o ∈ os, o.isCycle = false)
    (hreports : g'.reports = g.reports ++ os.flatMap Occurrence.reports)
    (hnotes : g'.notes = g.notes ++ os.flatMap Occurrence.notes)
    (hcalls : g'.notes.countP Note.isAdmitting =
      g'.notes.countP Note.isDecided + g'.notes.countP Note.isUndecided + g'.waiting)
    (hoffers : g'.usage.books.emitter.offers =
      g.usage.books.emitter.offers + (os.map Occurrence.offers).sum)
    (hstats : g'.loop.refresher.stats = g.loop.refresher.stats)
    (husage : g'.usage.books.emitter.Reported) : g'.Journalled (journal ++ os) where
  reports := by rw [hreports, h.reports, List.flatMap_append]
  notes := by rw [hnotes, h.notes, List.flatMap_append]
  calls := hcalls
  offers := by rw [hoffers, h.offers, List.map_append, List.sum_append]
  successes := by
    rw [hstats, h.successes, List.map_append, List.sum_append, Occurrence.sum_eq_zero
      fun o ho => (Occurrence.counts_of_not_isCycle (hos o ho)).1, Nat.add_zero]
  failures := by
    rw [hstats, h.failures, List.map_append, List.sum_append, Occurrence.sum_eq_zero
      fun o ho => (Occurrence.counts_of_not_isCycle (hos o ho)).2, Nat.add_zero]
  entries := by
    have hquiet := Occurrence.latest_flatMap fun o ho => Occurrence.latest_entries (hos o ho)
    rw [hreports, Metrics.latest_append, hquiet, hstats, ← h.entries, Option.none_or]
  usage := husage

private theorem Journalled.advanced (h : g.Journalled journal) {place : Nat} {p : Passage}
    {x : Pipeline.Advance} (cache : Tenant.Cache) (here : g.passages[place]? = some p)
    (next : Pipeline.Advance.Next s.services s.limiter p.arrival p.progress x) :
    ∃ more, ({ g with cache }.advance place p x).Journalled more := by
  obtain ⟨os, hos⟩ := Pipeline.Advance.tells_of_next next
  have hplain : ∀ o ∈ os, o.offers = 0 ∧ o.isCycle = false :=
    fun o ho => Occurrence.counts_of_isPlain (List.all_eq_true.mp hos.plain o ho)
  refine ⟨journal ++ os, h.extended (fun o ho => (hplain o ho).2) ?_ ?_ ?_ ?_ rfl h.usage⟩
  · rw [← hos.reports]
    rfl
  · rw [← hos.notes]
    rfl
  · have hwaiting := waiting_set (q := { p with progress := x.progress }) here
    have hcalls := h.calls
    have hstep := hos.calls
    simp only [advance, waiting, List.countP_append] at hwaiting hcalls ⊢
    omega
  · rw [Occurrence.sum_eq_zero fun o ho => (hplain o ho).1]
    rfl

private theorem Journalled.replied (h : g.Journalled journal) {place connection : Nat}
    {handled : Handled} {decision : Option Decision} {e : Usage.Event} (took seconds : Float)
    (here : g.passages[place]? =
      some ⟨connection, handled.arrival, .reached (.forwarding handled.direction decision)⟩) :
    ∃ more, (({ g with handled := g.handled ++ [handled] }.offer e).advance place
      ⟨connection, handled.arrival, .reached (.forwarding handled.direction decision)⟩
      (.reply handled decision took seconds)).Journalled more := by
  obtain ⟨method, status, service, hreports, hnotes, hover⟩ :=
    Pipeline.Advance.tells_reply handled decision took seconds
  refine ⟨journal ++ [.returned handled took, .completed method status service seconds],
    h.extended ?_ ?_ ?_ ?_ ?_ rfl ?_⟩
  · simp [Occurrence.isCycle]
  · rw [← hreports]
    rfl
  · exact congrArg (g.notes ++ ·) hnotes
  · have hwaiting := waiting_set (q := ⟨connection, handled.arrival,
      (Pipeline.Advance.reply handled decision took seconds).progress⟩) here
    have hcalls := h.calls
    rw [hover, show (Pipeline.Progress.reached (.forwarding handled.direction decision)).isCounting
      = false from rfl] at hwaiting
    simp only [advance, offer, waiting, List.countP_append, hnotes] at hwaiting hcalls ⊢
    rw [Nat.add_right_cancel hwaiting]
    exact hcalls
  · change (g.usage.step (.offer e)).books.emitter.offers = _
    rw [Usage.Closing.step, Usage.Books.emitter_step]
    exact Usage.Emitter.offers_record g.usage.books.emitter e
  · exact Usage.Closing.reported_step h.usage (.offer e)

private theorem Journalled.uncycled (h : g.Journalled journal) {loop : Tenant.RefreshLoop}
    (hstats : loop.refresher.stats = g.loop.refresher.stats) :
    Journalled { g with loop } journal :=
  { h with
    successes := hstats ▸ h.successes
    failures := hstats ▸ h.failures
    entries := hstats ▸ h.entries }

private theorem Journalled.cycled (h : g.Journalled journal) {o : Occurrence}
    {loop : Tenant.RefreshLoop} (cache : Tenant.Cache) (ho : o.isCycle = true)
    (hsuccesses : loop.refresher.stats.successfulCycles =
      g.loop.refresher.stats.successfulCycles + o.successes)
    (hfailures : loop.refresher.stats.failedCycles =
      g.loop.refresher.stats.failedCycles + o.failures)
    (hentries : (latest ⟨.cacheEntries, []⟩ o.reports).or (latest ⟨.cacheEntries, []⟩ g.reports) =
      if loop.refresher.stats.successfulCycles = 0 then none
      else some (.ofNat loop.refresher.stats.last.total)) :
    Journalled { g with loop, cache, reports := g.reports ++ o.reports } (journal ++ [o]) where
  reports := by
    rw [h.reports, List.flatMap_append, List.flatMap_singleton]
  notes := by
    rw [List.flatMap_append, ← h.notes]
    cases o with
    | refreshed | unrefreshed => exact (List.append_nil _).symm
    | _ => cases ho
  calls := h.calls
  offers := by
    rw [List.map_append, List.sum_append, ← h.offers]
    cases o with
    | refreshed | unrefreshed => rfl
    | _ => cases ho
  successes := by
    rw [List.map_append, List.sum_append, ← h.successes]
    exact hsuccesses
  failures := by
    rw [List.map_append, List.sum_append, ← h.failures]
    exact hfailures
  entries := (Metrics.latest_append ..).trans hentries
  usage := h.usage

private theorem Journalled.refreshed (h : g.Journalled journal) (now : Instant)
    (answer : Except Tenant.RefreshError Tenant.Snapshot) :
    ∃ more, Journalled { g with
      loop := (g.loop.settle g.cache now answer).1
      cache := (g.loop.settle g.cache now answer).2.1
      reports := g.reports ++ (g.loop.settle g.cache now answer).2.2 } more := by
  rcases settle_cases g.loop g.cache now answer with
    ⟨hstats, hreports⟩ | ⟨hstats, hreports⟩ | ⟨d, hstats, hreports⟩
  · rw [hreports, List.append_nil]
    exact ⟨journal, { h.uncycled hstats with }⟩
  · rw [hreports]
    refine ⟨_, h.cycled _ rfl (by rw [hstats]; rfl) (by rw [hstats]; rfl) ?_⟩
    rw [hstats]
    exact h.entries
  · rw [hreports]
    refine ⟨_, h.cycled _ rfl (by rw [hstats]; rfl) (by rw [hstats]; rfl) ?_⟩
    rw [hstats]
    rfl

private theorem Journalled.move (h : g.Journalled journal) {e : Event} (hmove : Move s g e g') :
    ∃ more, g'.Journalled more := by
  cases hmove with
  | idle => exact ⟨journal, h⟩
  | connected | hungUp | announced | shutDown | subscribed | waited | drained =>
    exact ⟨journal, { h with }⟩
  | arrived a held =>
    refine ⟨journal, { h with calls := ?_ }⟩
    rw [waiting, List.countP_append]
    exact h.calls
  | advanced cache here next => exact h.advanced cache here next
  | replied took seconds here => exact h.replied took seconds here
  | turned now => exact ⟨journal, h.uncycled (stats_turn g.loop now)⟩
  | refreshed now answer => exact h.refreshed now answer
  | @worked e inner =>
    refine ⟨journal, {
      h with
      offers := (Usage.Closing.offers_step ?_).trans h.offers
      usage := Usage.Closing.reported_step h.usage e }⟩
    rintro x rfl
    cases inner
  | closed =>
    refine ⟨journal, {
      h.uncycled (stats_abort g.loop) with
      offers := (Usage.Closing.offers_step ?_).trans h.offers
      usage := Usage.Closing.reported_step h.usage (.close s.grace) }⟩
    intro x hx
    cases hx

/-- Every run of a gateway has a journal. -/
theorem exists_journalled_run (s : Settings) (events : List Event) :
    ∃ journal, (run s events).Journalled journal := by
  induction events using List.reverseRecOn with
  | nil => exact ⟨[], journalled_start s⟩
  | append_singleton events e ih =>
    obtain ⟨journal, h⟩ := ih
    rw [run_concat]
    exact h.move (move_step s _ e)

/-- The metrics agree with what the parts of a gateway have counted, and with what has happened to
its requests. -/
structure Reconciled (g : Gateway) : Prop where
  enqueued : g.registry.sum .usageEvents [("result", "enqueued")] =
    .ofNat g.usage.books.emitter.stats.enqueued
  dropped : g.registry.sum .usageEvents [("result", "dropped")] =
    .ofNat g.usage.books.emitter.stats.dropped
  published : g.registry.sum .usageEvents [("result", "published")] =
    .ofNat g.usage.books.emitter.stats.published
  failed : g.registry.sum .usageEvents [("result", "failed")] =
    .ofNat g.usage.books.emitter.stats.failed
  batches : g.registry.sum .usageBatches [] = .ofNat g.usage.books.emitter.stats.batches
  successfulCycles : g.registry.sum .cacheRefreshes [("result", "ok")] =
    .ofNat g.loop.refresher.stats.successfulCycles
  failedCycles : g.registry.sum .cacheRefreshes [("result", "failed")] =
    .ofNat g.loop.refresher.stats.failedCycles
  /-- The entries that the latest successful cycle has found. -/
  entries : g.registry.value? ⟨.cacheEntries, []⟩ =
    if g.loop.refresher.stats.successfulCycles = 0 then none
    else some (.ofNat g.loop.refresher.stats.last.total)
  lookups : g.registry.sum .cacheLookups [("result", "hit")] +
      g.registry.sum .cacheLookups [("result", "miss")] +
      g.registry.sum .cacheLookups [("result", "expired")] =
    .ofNat (g.notes.countP Note.isIdentifying)
  authFailures : ∀ reason, g.registry.sum .authFailures [("reason", reason)] =
    .ofNat (g.notes.countP (Note.isFailure reason))
  authErrors : ∀ e : AuthError, g.registry.sum .errors [("error_type", e.code)] =
    .ofNat (g.notes.countP (Note.isFailure e.code))
  decisions : g.registry.sum .rateLimitDecisions [] = .ofNat (g.notes.countP Note.isDecided)
  /-- A call of the limiter that is over without an outcome has broken off, or was given up with its
  request. -/
  calls : g.notes.countP Note.isAdmitting =
    g.notes.countP Note.isDecided + g.notes.countP Note.isUndecided + g.waiting
  denials : g.registry.sum .rateLimitDecisions [("result", "denied")] =
    g.registry.sum .errors [("error_type", "rate_limit_exceeded")]
  requests : g.registry.sum .requests [] = .ofNat (g.notes.countP Note.isCompleted)
  backends : g.registry.sum .backendRequests [] + g.registry.sum .backendErrors [] =
    .ofNat (g.usage.books.emitter.stats.enqueued + g.usage.books.emitter.stats.dropped)

section Figures

variable (h : g.Journalled journal)
include h

private theorem Journalled.sum_eq (i : Instrument)
    (hi : i.kind = .counter ∧ i ≠ .usageEvents ∧ i ≠ .usageBatches) (selector : Labels) :
    g.registry.sum i selector = total i selector (journal.flatMap Occurrence.reports) := by
  obtain ⟨hkind, hevents, hbatches⟩ := hi
  rw [registry, Metrics.Registry.sum_recordAll hkind, allReports, Metrics.total_append,
    Metrics.total_reverse, Metrics.total_of_isUsage hevents hbatches h.usage.own, h.reports,
    UInt64.add_zero]

private theorem Journalled.sum_eq_countP {i : Instrument} {selector : Labels} {p : Note → Bool}
    (hi : i.kind = .counter ∧ i ≠ .usageEvents ∧ i ≠ .usageBatches)
    (hp : ∀ o : Occurrence, tally [(i, selector)] o.reports = .ofNat (o.notes.countP p)) :
    g.registry.sum i selector = .ofNat (g.notes.countP p) := by
  rw [h.sum_eq i hi, h.notes, ← Occurrence.tally_reports_eq_countP hp, Metrics.tally_singleton]

private theorem Journalled.sum_usage {i : Instrument} {selector : Labels} (hi : i.kind = .counter)
    (hquiet : ∀ o : Occurrence, tally [(i, selector)] o.reports = 0) :
    g.registry.sum i selector = total i selector g.usage.books.emitter.reports := by
  have hnone : tally [(i, selector)] (journal.flatMap Occurrence.reports) =
      .ofNat (journal.map fun _ => 0).sum := Occurrence.tally_reports hquiet journal
  rw [Occurrence.sum_eq_zero fun _ _ => rfl, ← h.reports, Metrics.tally_singleton] at hnone
  rw [registry, Metrics.Registry.sum_recordAll hi, allReports, Metrics.total_append,
    Metrics.total_reverse, hnone]
  exact UInt64.zero_add _

/-- A journal settles every figure. -/
theorem Journalled.reconciled : g.Reconciled := by
  have husage (result : String) : g.registry.sum .usageEvents [("result", result)] =
      .ofNat (g.usage.books.emitter.stats.of result) :=
    (h.sum_usage rfl fun o => (Occurrence.tally_usage _ o).1).trans (h.usage.events result)
  have hlookups := Occurrence.tally_reports_eq_countP Occurrence.tally_lookups journal
  have hbackends := Occurrence.tally_reports Occurrence.tally_backends journal
  rw [Metrics.tally_cons, Metrics.tally_cons, Metrics.tally_singleton, ← h.notes] at hlookups
  rw [Metrics.tally_cons, Metrics.tally_singleton, ← h.offers] at hbackends
  have hrefreshes : g.registry.sum .cacheRefreshes [("result", "ok")] =
        .ofNat (journal.map Occurrence.successes).sum ∧
      g.registry.sum .cacheRefreshes [("result", "failed")] =
        .ofNat (journal.map Occurrence.failures).sum := by
    rw [h.sum_eq .cacheRefreshes (by decide), h.sum_eq .cacheRefreshes (by decide),
      ← Occurrence.tally_reports fun o => (Occurrence.tally_refreshes o).1,
      ← Occurrence.tally_reports fun o => (Occurrence.tally_refreshes o).2,
      Metrics.tally_singleton, Metrics.tally_singleton]
    exact ⟨rfl, rfl⟩
  exact {
    enqueued := husage "enqueued"
    dropped := husage "dropped"
    published := husage "published"
    failed := husage "failed"
    batches :=
      (h.sum_usage rfl fun o => (Occurrence.tally_usage _ o).2).trans h.usage.batches
    successfulCycles := hrefreshes.1.trans (congrArg UInt64.ofNat h.successes.symm)
    failedCycles := hrefreshes.2.trans (congrArg UInt64.ofNat h.failures.symm)
    entries := by
      have hown : ∀ m ∈ g.usage.books.emitter.reports.reverse, m.isUsage = true :=
        fun m hm => h.usage.own m (List.mem_reverse.mp hm)
      rw [registry, Metrics.Registry.value?_recordAll rfl rfl, allReports, Metrics.latest_append,
        Metrics.latest_of_isUsage hown, Option.none_or, h.entries]
    lookups := by
      rw [h.sum_eq .cacheLookups (by decide), h.sum_eq .cacheLookups (by decide),
        h.sum_eq .cacheLookups (by decide), UInt64.add_assoc, hlookups]
    authFailures := fun reason =>
      h.sum_eq_countP (by decide) (Occurrence.tally_authFailures reason)
    authErrors := fun e => h.sum_eq_countP (by decide) (Occurrence.tally_authErrors e)
    decisions := h.sum_eq_countP (by decide) Occurrence.tally_decisions
    calls := h.calls
    denials := (h.sum_eq_countP (by decide) Occurrence.tally_denials).trans
      (h.sum_eq_countP (by decide) Occurrence.tally_limitErrors).symm
    requests := h.sum_eq_countP (by decide) Occurrence.tally_requests
    backends := by
      rw [h.sum_eq .backendRequests (by decide), h.sum_eq .backendErrors (by decide)]
      exact hbackends }

end Figures

/-- Whatever a gateway has gone through, its metrics reconcile. -/
theorem reconciled_run (s : Settings) (events : List Event) : (run s events).Reconciled := by
  obtain ⟨journal, h⟩ := exists_journalled_run s events
  exact h.reconciled

private def oneService : Settings :=
  { listen := ⟨.v4 [127, 0, 0, 1], 8080, 0⟩
    services := [⟨"billing", "http://billing:8080", true⟩] }

private def caller : Tenant.Record := ⟨"org", "key_a", ⟨1000, 100000, 500⟩⟩

-- The client of a request goes while the limiter waits for its store.
private def callGivenUp : List Event :=
  [.connect,
    .arrive 0 ⟨⟨"GET", ⟨none, none, "/billing/invoices", none⟩, .http11, [("x-api-key", "k")], ""⟩,
      "r", .v4 [10, 0, 0, 9]⟩,
    .inquire 0 ⟨0⟩ 0, .learn 0 (.ok (some caller)) ⟨0⟩ 0, .giveUp 0]

/-- A call that is given up with its request has no outcome, and no decision is reported of it. -/
theorem not_all_calls_decided : ¬ ∀ s events,
    (∀ p ∈ (run s events).passages, p.progress.isOver = true) →
      (run s events).loop.inCycle = false →
        (run s events).registry.sum .rateLimitDecisions [] =
          .ofNat ((run s events).notes.countP Note.isAdmitting) := by
  intro hall
  have hequal := hall oneService callGivenUp (by decide +kernel) rfl
  revert hequal
  decide +kernel

end Gateway

end TenantGateway
