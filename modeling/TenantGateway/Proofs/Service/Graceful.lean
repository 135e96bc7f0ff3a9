import TenantGateway.Proofs.Service.Gateway

/-! A graceful shutdown loses no usage event. A request is under way only as long as its connection
is counted, the emitter is closed only after the wait for the connections, and so each event that is
offered before the connections have ended finds the buffer open. -/
namespace TenantGateway
open Pipeline (Advance Handled)

namespace Usage

open Closing in
/-- A worker that can run is there for as long as the emitter is open. -/
theorem Closing.reception_run {settings : EmitterSettings} (hruns : settings.Runnable)
    (events : List Closing.Event) :
    (run settings events).books.emitter.reception = .taken ∨
      (run settings events).books.emitter.reception = .full ∨
      (run settings events).books.emitter.reception = .closed ∧
        (run settings events).phase ≠ .notBegun := by
  have hstanding := standing_run hruns events
  cases hopen : (run settings events).books.emitter.isOpen with
  | false =>
    have hbegun : (run settings events).phase ≠ .notBegun := by
      intro hphase
      rw [isOpen_of_notBegun hphase] at hopen
      cases hopen
    exact .inr (.inr ⟨if_pos hopen, hbegun⟩)
  | true =>
    have hstaffed : (run settings events).books.emitter.worker.ended = false := by
      cases hstanding with
      | inService hphase _ hkept =>
        by_contra hended
        have hfinished := finished_of_ended hkept (eq_true_of_ne_false hended)
        have hleft := vacated_run events (by rw [hfinished]; rfl)
        rw [hopen] at hleft
        cases hleft.1
      | draining _ hclosed | complete _ hclosed | cutOff _ hclosed =>
        rw [hopen] at hclosed
        cases hclosed
    rw [Emitter.reception, hopen, hstaffed]
    simp only [Bool.true_eq_false, if_false, Bool.false_eq_true]
    split
    · exact .inl rfl
    · exact .inr (.inl rfl)

open Closing in
/-- Once a close has succeeded and no batch was given up, the sink has all that was accepted. -/
theorem Closing.delivered_of_returned {settings : EmitterSettings}
    (hruns : settings.Runnable) {events : List Closing.Event}
    (hreturned : (run settings events).phase = .returned (.ok ()))
    (hkept : (run settings events).books.settled.filterMap Settlement.abandoned? = []) :
    (run settings events).books.delivered.flatten =
      (run settings events).books.accepted.map .ofEvent := by
  have hstanding := standing_run hruns events
  obtain ⟨hbuffer, hbatch, -⟩ := hstanding.complete_of_returned (vacated_run events) hreturned
  cases hstanding with
  | complete _ _ hbooks =>
    rw [hbooks.sequence, hbatch, hbuffer, hbooks.delivered,
      filterMap_published?_of_unfailing hkept, List.append_nil, List.append_nil, List.map_flatten]
  | inService hphase | draining hphase | cutOff hphase =>
    rw [hreturned] at hphase
    cases hphase

end Usage

namespace Gateway

/-- What holds of connections and requests at every moment. -/
structure Attended (g : Gateway) : Prop where
  counts : g.tracking.Counts
  /-- Requests are under way on connections only that have not ended. -/
  held : ∀ p ∈ g.passages, p.progress.isOver = false →
    g.tracking.guards[p.connection]? = some .held
  shuttingDown : g.phase ≠ .accepting → g.tracking.tracker.shuttingDown = true
  waiting : g.phase = .draining → g.tracking.waits[0]?.bind Wait.result? = none
  unwaited : g.phase = .accepting ∨ g.phase = .leaving → g.tracking.waits = []
  /-- A wait that has ended with no connection left has seen that none was open. -/
  left : g.phase.left? = some 0 → g.tracking.tracker.active = 0

variable {s : Settings} {g g' : Gateway} {e : Event}

private theorem attended_start (s : Settings) : (start s).Attended where
  counts := rfl
  held _ hp := absurd hp List.not_mem_nil
  shuttingDown h := absurd rfl h
  waiting h := ServePhase.noConfusion h
  unwaited _ := rfl
  left _ := rfl

private theorem Attended.unmoved (h : g.Attended) (hphase : g'.phase = g.phase)
    (htracking : g'.tracking = g.tracking)
    (hheld : ∀ p ∈ g'.passages, p.progress.isOver = false →
      g.tracking.guards[p.connection]? = some .held) : g'.Attended where
  counts := htracking ▸ h.counts
  held := htracking ▸ hheld
  shuttingDown := hphase ▸ htracking ▸ h.shuttingDown
  waiting := hphase ▸ htracking ▸ h.waiting
  unwaited := hphase ▸ htracking ▸ h.unwaited
  left := hphase ▸ htracking ▸ h.left

private theorem Attended.advance (h : g.Attended) {place : Nat} {p : Passage} {x : Advance}
    (here : g.passages[place]? = some p) (hgoing : p.progress.isOver = false) :
    (g.advance place p x).Attended := by
  refine h.unmoved rfl rfl fun q hq hover => ?_
  rcases List.mem_or_eq_of_mem_set hq with hq | rfl
  · exact h.held q hq hover
  · exact h.held p (List.mem_of_getElem? here) hgoing

private theorem Attended.track (h : g.Attended) {event : Tracking.Event}
    (hheld : ∀ p ∈ g.passages, p.progress.isOver = false → event ≠ .discount p.connection)
    (hwaits : (g.tracking.step event).waits = g.tracking.waits) :
    ({ g with tracking := g.tracking.step event }).Attended where
  counts := h.counts.move (g.tracking.move_step event)
  held p hp hgoing :=
    Tracking.held_move (h.held p hp hgoing) (hheld p hp hgoing) (g.tracking.move_step event)
  shuttingDown hphase :=
    Tracking.shuttingDown_move (h.shuttingDown hphase) (g.tracking.move_step event)
  waiting hphase := hwaits ▸ h.waiting hphase
  unwaited hphase := hwaits ▸ h.unwaited hphase
  left hleft := by
    have hphase : g.phase ≠ .accepting := by
      intro hphase
      rw [hphase] at hleft
      cases hleft
    have hle := Tracking.active_move_le (h.shuttingDown hphase) (g.tracking.move_step event)
    rw [h.left hleft] at hle
    exact Nat.eq_zero_of_le_zero hle

private theorem Attended.active_of_result (h : g.Attended) (hphase : g.phase = .draining)
    {turn : WaitTurn}
    (hresult : (g.tracking.step (.turn turn 0)).waits[0]?.bind Wait.result? = some 0) :
    g.tracking.tracker.active = 0 := by
  obtain ⟨w, hw, hzero⟩ := Option.bind_eq_some_iff.mp hresult
  rcases Tracking.result?_move (g.tracking.move_step _) hw hzero with
    hold | ⟨-, -, hactive, -⟩ | ⟨-, -, hactive⟩
  · have hwaiting := h.waiting hphase
    rw [hold, Option.bind_some, hzero] at hwaiting
    cases hwaiting
  · exact hactive
  · exact hactive.symm

private theorem Attended.move (h : g.Attended) (hmove : Move s g e g') : g'.Attended := by
  cases hmove with
  | idle => exact h
  | turned | refreshed | worked => exact h.unmoved rfl rfl h.held
  | closed hphase =>
    exact {
      counts := h.counts
      held := h.held
      shuttingDown := fun _ => h.shuttingDown (by simp [hphase])
      waiting := fun hother => by cases hother
      unwaited := fun hother => by rcases hother with hother | hother <;> cases hother
      left := fun hleft => h.left (by rw [hphase]; exact hleft) }
  | connected | announced =>
    refine h.track ?_ (Tracking.waits_move (Tracking.move_step _ _) ?_ ?_)
    all_goals simp
  | @hungUp connection hover =>
    refine h.track ?_ (Tracking.waits_move (Tracking.move_step _ _) (by simp) (by simp))
    rintro p hp hgoing hsame
    cases hsame
    rw [hover p hp rfl] at hgoing
    cases hgoing
  | @arrived connection a hheld =>
    refine h.unmoved rfl rfl fun p hp hgoing => ?_
    rcases List.mem_append.mp hp with hp | hp
    · exact h.held p hp hgoing
    · cases List.mem_singleton.mp hp
      exact hheld
  | advanced cache here next =>
    have hcache : ({ g with cache } : Gateway).Attended := h.unmoved rfl rfl h.held
    exact hcache.advance here next.isOver
  | @replied place connection handled decision event took seconds here hmetered =>
    have hmeter : (({ g with handled := g.handled ++ [handled] } : Gateway).offer event).Attended :=
      h.unmoved rfl rfl h.held
    exact hmeter.advance here rfl
  | shutDown hphase =>
    exact {
      counts := h.counts
      held := h.held
      shuttingDown := fun _ => rfl
      waiting := fun hother => by cases hother
      unwaited := fun _ => h.unwaited (.inl hphase)
      left := fun hother => by cases hother }
  | subscribed hphase =>
    have hwaits := h.unwaited (.inr hphase)
    exact {
      counts := h.counts
      held := h.held
      shuttingDown := fun _ => h.shuttingDown (by simp [hphase])
      waiting := fun _ => by simp [Tracking.step, hwaits, Wait.begin, Wait.result?]
      unwaited := fun hother => by rcases hother with hother | hother <;> cases hother
      left := fun hother => by cases hother }
  | waited turn hphase hwaiting =>
    exact {
      counts := h.counts
      held := h.held
      shuttingDown := h.shuttingDown
      waiting := fun _ => hwaiting
      unwaited := fun hother => by
        rw [hphase] at hother
        rcases hother with hother | hother <;> cases hother
      left := h.left }
  | @drained turn left hphase hresult =>
    exact {
      counts := h.counts
      held := h.held
      shuttingDown := fun _ => h.shuttingDown (by simp [hphase])
      waiting := fun hother => by cases hother
      unwaited := fun hother => by rcases hother with hother | hother <;> cases hother
      left := fun hleft => by
        cases hleft
        exact h.active_of_result hphase hresult }

private theorem attended_run (s : Settings) (events : List Event) : (run s events).Attended := by
  induction events using List.reverseRecOn with
  | nil => exact attended_start s
  | append_singleton events e ih =>
    rw [run_concat]
    exact ih.move (move_step s _ e)

/-- Once no connection is open, no request is under way. -/
theorem Attended.isOver (h : g.Attended) (hleft : g.phase.left? = some 0) :
    ∀ p ∈ g.passages, p.progress.isOver = true := by
  intro p hp
  by_contra hgoing
  have hheld := h.held p hp (Bool.eq_false_iff.mpr hgoing)
  have hnone := h.left hleft
  rw [h.counts, List.count_eq_zero] at hnone
  exact hnone (List.mem_of_getElem? hheld)

/-- Once no connection is open, no request arrives or is handled any more. -/
theorem Attended.settled (h : g.Attended) (hleft : g.phase.left? = some 0)
    (hmove : Move s g e g') : g'.phase.left? = some 0 ∧ g'.handled = g.handled ∧
      g'.offers = g.offers := by
  have hover := h.isOver hleft
  cases hmove with
  | idle | connected | arrived | hungUp | announced | turned | refreshed | worked | advanced =>
    exact ⟨hleft, rfl, rfl⟩
  | replied took seconds here =>
    have hgoing := hover _ (List.mem_of_getElem? here)
    cases hgoing
  | shutDown hphase | subscribed hphase | waited turn hphase | drained turn hphase =>
    rw [hphase] at hleft
    cases hleft
  | closed hphase =>
    rw [hphase] at hleft
    exact ⟨hleft, rfl, rfl⟩

private theorem Attended.settled_foldl (h : g.Attended) (hleft : g.phase.left? = some 0)
    (more : List Event) : (more.foldl (step s) g).handled = g.handled ∧
      (more.foldl (step s) g).offers = g.offers := by
  induction more generalizing g with
  | nil => exact ⟨rfl, rfl⟩
  | cons e more ih =>
    have hmove := move_step s g e
    obtain ⟨hleft', hhandled, hoffers⟩ := h.settled hleft hmove
    obtain ⟨hhandled', hoffers'⟩ := ih (h.move hmove) hleft'
    exact ⟨hhandled'.trans hhandled, hoffers'.trans hoffers⟩

/-- What holds of the usage events at every moment. -/
structure Metered (s : Settings) (g : Gateway) : Prop where
  usage : ∃ events, g.usage = .run s.emitter events
  begun : g.usage.phase ≠ .notBegun → ∃ left, g.phase = .closing left
  offered : g.handled.map Handled.event? = g.offers.map fun o => some o.event
  accepted : g.usage.books.accepted =
    (g.offers.filter fun o => o.reception = .taken).map Offer.event
  received : ∀ o ∈ g.offers, o.reception = .taken ∨ o.reception = .full ∨
    o.reception = .closed ∧ ∃ left, left ≠ 0 ∧ g.phase = .closing left

private theorem metered_start (s : Settings) : (start s).Metered s where
  usage := ⟨[], rfl⟩
  begun h := absurd rfl h
  offered := rfl
  accepted := rfl
  received _ ho := absurd ho List.not_mem_nil

private theorem Metered.unmoved (h : g.Metered s) (husage : g'.usage = g.usage)
    (hphase : g'.phase = g.phase) (hhandled : g'.handled = g.handled)
    (hoffers : g'.offers = g.offers) : g'.Metered s where
  usage := husage ▸ h.usage
  begun := husage ▸ hphase ▸ h.begun
  offered := hhandled ▸ hoffers ▸ h.offered
  accepted := husage ▸ hoffers ▸ h.accepted
  received := hphase ▸ hoffers ▸ h.received

private theorem Metered.rephased (h : g.Metered s) (hopen : ∀ left, g.phase ≠ .closing left)
    (husage : g'.usage = g.usage) (hhandled : g'.handled = g.handled)
    (hoffers : g'.offers = g.offers) : g'.Metered s where
  usage := husage ▸ h.usage
  begun hbegun := by
    obtain ⟨left, hphase⟩ := h.begun (husage ▸ hbegun)
    exact absurd hphase (hopen left)
  offered := hhandled ▸ hoffers ▸ h.offered
  accepted := husage ▸ hoffers ▸ h.accepted
  received o ho := by
    rcases h.received o (hoffers ▸ ho) with htaken | hfull | ⟨-, left, -, hphase⟩
    · exact .inl htaken
    · exact .inr (.inl hfull)
    · exact absurd hphase (hopen left)

private theorem inner_step {c : Usage.Closing} {e : Usage.Closing.Event} (hinner : isInner e) :
    (c.step e).books.accepted = c.books.accepted ∧
      ((c.step e).phase ≠ .notBegun → c.phase ≠ .notBegun) := by
  have hmove := c.move_step e
  generalize c.step e = d at hmove
  cases hmove with
  | idle => exact ⟨rfl, id⟩
  | offered | begun => cases hinner
  | worked ha => exact ⟨Usage.Books.accepted_step_of_isWork _ ha, id⟩
  | joined hphase | flushed hphase | timedOut hphase =>
    refine ⟨rfl, fun _ => ?_⟩
    rw [hphase]
    exact nofun

private theorem accepted_close (c : Usage.Closing) (limit : Duration) :
    (c.step (.close limit)).books.accepted = c.books.accepted := by
  simp only [Usage.Closing.step, Usage.Closing.close]
  split <;> rfl

private theorem accepted_offer (c : Usage.Closing) (e : Usage.Event) :
    (c.step (.offer e)).books.accepted =
      if c.books.emitter.reception = .taken then c.books.accepted ++ [e] else c.books.accepted := by
  simp only [Usage.Closing.step, Usage.Books.step, Usage.Emitter.fst_record, decide_eq_true_eq]

private theorem Metered.move (h : g.Metered s) (hattended : g.Attended)
    (hruns : s.emitter.Runnable) (hmove : Move s g e g') : g'.Metered s := by
  cases hmove with
  | idle => exact h
  | connected | arrived | hungUp | announced | turned | refreshed | waited =>
    exact h.unmoved rfl rfl rfl rfl
  | advanced cache here next => exact h.unmoved rfl rfl rfl rfl
  | shutDown hphase | subscribed hphase | drained turn hphase =>
    refine h.rephased ?_ rfl rfl rfl
    intro left hclosing
    rw [hphase] at hclosing
    cases hclosing
  | @closed left hphase =>
    obtain ⟨events, hevents⟩ := h.usage
    exact {
      usage := ⟨events ++ [.close s.grace], by rw [Usage.Closing.run_append, hevents]; rfl⟩
      begun := fun _ => ⟨left, rfl⟩
      offered := h.offered
      accepted := (accepted_close g.usage s.grace).trans h.accepted
      received := fun o ho => by
        rcases h.received o ho with htaken | hfull | ⟨-, left', -, hclosing⟩
        · exact .inl htaken
        · exact .inr (.inl hfull)
        · rw [hphase] at hclosing
          cases hclosing }
  | @worked event hinner =>
    obtain ⟨events, hevents⟩ := h.usage
    obtain ⟨haccepted, hbegun⟩ := inner_step (c := g.usage) hinner
    exact {
      usage := ⟨events ++ [event], by rw [Usage.Closing.run_append, hevents]; rfl⟩
      begun := fun h' => h.begun (hbegun h')
      offered := h.offered
      accepted := haccepted.trans h.accepted
      received := h.received }
  | @replied place connection handled decision event took seconds here hmetered =>
    obtain ⟨events, hevents⟩ := h.usage
    exact {
      usage := ⟨events ++ [.offer event], by rw [Usage.Closing.run_append, hevents]; rfl⟩
      begun := h.begun
      offered := by
        change List.map _ (g.handled ++ [handled]) = List.map _ (g.offers ++ [_])
        rw [List.map_append, List.map_append, h.offered, List.map_singleton, hmetered]
        rfl
      accepted := by
        refine (accepted_offer g.usage event).trans ?_
        change _ = ((g.offers ++ [_]).filter _).map _
        rw [List.filter_append, List.map_append, ← h.accepted]
        split
        next htaken => simp [htaken]
        next hother => simp [hother]
      received := by
        intro o ho
        rcases List.mem_append.mp ho with ho | ho
        · exact h.received o ho
        cases List.mem_singleton.mp ho
        have hcases := Usage.Closing.reception_run hruns events
        rw [← hevents] at hcases
        refine hcases.imp_right (Or.imp_right ?_)
        rintro ⟨hclosed, hbegun⟩
        obtain ⟨left, hphase⟩ := h.begun hbegun
        refine ⟨hclosed, left, ?_, hphase⟩
        rintro rfl
        have hover := hattended.isOver (by rw [hphase]; rfl) _ (List.mem_of_getElem? here)
        cases hover }

private theorem metered_run (s : Settings) (hruns : s.emitter.Runnable) (events : List Event) :
    (run s events).Metered s := by
  induction events using List.reverseRecOn with
  | nil => exact metered_start s
  | append_singleton events e ih =>
    rw [run_concat]
    exact ih.move (attended_run s events) hruns (move_step s _ e)

private theorem tracking_move (hmove : Move s g e g') :
    g'.tracking = g.tracking ∨ ∃ event, g'.tracking = g.tracking.step event := by
  cases hmove with
  | idle | arrived | advanced | replied | turned | refreshed | worked | closed => exact .inl rfl
  | connected => exact .inr ⟨.accept, rfl⟩
  | @hungUp connection => exact .inr ⟨.discount connection, rfl⟩
  | announced connection => exact .inr ⟨.announce connection, rfl⟩
  | shutDown => exact .inr ⟨.beginShutdown, rfl⟩
  | subscribed => exact .inr ⟨.subscribe, rfl⟩
  | waited turn | drained turn => exact .inr ⟨.turn turn 0, rfl⟩

private theorem phase_move (h : g.phase ≠ .accepting) (hmove : Move s g e g') :
    g'.phase ≠ .accepting := by
  cases hmove with
  | idle | arrived | advanced | replied | turned | refreshed | worked | connected | hungUp
  | announced | waited => exact h
  | shutDown | subscribed | drained | closed => exact nofun

private theorem phase_of_mem {events : List Event} (h : .shutDown ∈ events) :
    (run s events).phase ≠ .accepting := by
  induction events using List.reverseRecOn with
  | nil => cases h
  | append_singleton events e ih =>
    rw [run_concat]
    rcases List.mem_append.mp h with h | h
    · exact phase_move (ih h) (move_step s _ e)
    · cases List.mem_singleton.mp h
      rw [step]
      split
      next => simp
      next hphase => exact hphase

private theorem length_guards_foldl (h : g.tracking.tracker.shuttingDown = true)
    (more : List Event) :
    (more.foldl (step s) g).tracking.guards.length = g.tracking.guards.length := by
  induction more generalizing g with
  | nil => rfl
  | cons e more ih =>
    rcases tracking_move (move_step s g e) with hsame | ⟨event, htracking⟩
    · rw [List.foldl_cons, ih (hsame ▸ h), hsame]
    · have hmove := g.tracking.move_step event
      rw [List.foldl_cons, ih (htracking ▸ Tracking.shuttingDown_move h hmove), htracking]
      exact Tracking.length_guards_move h hmove

/-- How a gateway shuts down. -/
structure Graceful (s : Settings) (events : List Event) : Prop where
  /-- After the shutdown has been asked for, no connection is accepted. -/
  refused : .shutDown ∈ events → ∀ more,
    (run s (events ++ more)).tracking.guards.length = (run s events).tracking.guards.length
  /-- Each admitted request that is handled to its end has its event offered to the emitter, once. -/
  metered : (run s events).handled.map Handled.event? =
    (run s events).offers.map fun o => some o.event
  /-- When the wait has ended with no connection left, no request is under way, and no event will be
  offered any more. -/
  drained : (run s events).phase.left? = some 0 →
    (∀ p ∈ (run s events).passages, p.progress.isOver = true) ∧
      ∀ more, (run s (events ++ more)).handled = (run s events).handled ∧
        (run s (events ++ more)).offers = (run s events).offers
  unrefused : (run s events).phase.left? = some 0 →
    ∀ o ∈ (run s events).offers, o.reception ≠ .closed
  /-- If the close succeeds as well and no batch has been given up, the sink has the events that were
  taken, in their order, and the others found the buffer full. -/
  lossless : (run s events).phase.left? = some 0 →
    (run s events).usage.phase = .returned (.ok ()) →
    (run s events).usage.books.settled.filterMap Usage.Settlement.abandoned? = [] →
    (run s events).usage.books.delivered.flatten =
        ((run s events).offers.filter fun o => o.reception = .taken).map
          (fun o => .ofEvent o.event) ∧
      ∀ o ∈ (run s events).offers, o.reception = .taken ∨ o.reception = .full

private theorem Metered.unrefused (h : g.Metered s) (hleft : g.phase.left? = some 0) :
    ∀ o ∈ g.offers, o.reception = .taken ∨ o.reception = .full := by
  intro o ho
  rcases h.received o ho with htaken | hfull | ⟨-, left, hsome, hphase⟩
  · exact .inl htaken
  · exact .inr hfull
  · rw [hphase] at hleft
    cases hleft
    exact absurd rfl hsome

/-- Where the emitter's worker can run, a gateway shuts down gracefully, whatever was under way when the
shutdown was asked for. -/
theorem graceful_run (s : Settings) (hruns : s.emitter.Runnable) (events : List Event) :
    Graceful s events := by
  have hattended := attended_run s events
  have hmetered := metered_run s hruns events
  exact {
    refused := by
      intro hshutdown more
      rw [run_append]
      exact length_guards_foldl (hattended.shuttingDown (phase_of_mem hshutdown)) more
    metered := hmetered.offered
    drained := by
      intro hleft
      refine ⟨hattended.isOver hleft, fun more => ?_⟩
      rw [run_append]
      exact hattended.settled_foldl hleft more
    unrefused := by
      intro hleft o ho hclosed
      rcases hmetered.unrefused hleft o ho with h | h
      all_goals
        rw [hclosed] at h
        cases h
    lossless := by
      intro hleft hreturned habandoned
      obtain ⟨trace, htrace⟩ := hmetered.usage
      refine ⟨?_, hmetered.unrefused hleft⟩
      rw [htrace] at hreturned habandoned
      have hdelivered := Usage.Closing.delivered_of_returned hruns hreturned habandoned
      rw [← htrace, hmetered.accepted, List.map_map] at hdelivered
      exact hdelivered }

private def invoices (batchSize flushMillis : UInt64) : Settings :=
  { listen := ⟨.v4 [127, 0, 0, 1], 8080, 0⟩
    services := [⟨"billing", "http://billing:8080", true⟩]
    usage := { batchSize, flushIntervalMillis := flushMillis } }

-- A backend responds when the shutdown has begun, and another client comes too late.
private def lastRequest : List Event :=
  [.emitter (.turn (.start ⟨0⟩) rfl), .connect,
    .arrive 0 ⟨⟨"GET", ⟨none, none, "/billing/invoices", none⟩, .http11, [("x-api-key", "k")], ""⟩,
      "r", .v4 [10, 0, 0, 9]⟩,
    .inquire 0 ⟨0⟩ 0, .learn 0 (.ok (some default)) ⟨0⟩ 0,
    .count 0 default .zero (.ok ⟨.incremented, 1, 1, none, none⟩) 0,
    .shutDown, .connect, .subscribe, .drain .look,
    .reply 0 (.responded ⟨200, [], "ok"⟩) 5 default 0 0,
    .hangUp 0, .announce 0, .drain .wake, .drain .look, .close,
    .emitter (.turn .receive rfl), .emitter (.turn .drain rfl), .emitter (.answer true ⟨1⟩),
    .emitter .joined, .emitter .flushed]

/-- The request that was under way when the shutdown began is billed. -/
theorem graceful_run_of_lastRequest :
    (invoices 100 500).emitter.Runnable ∧
      (run (invoices 100 500) lastRequest).phase.left? = some 0 ∧
      (run (invoices 100 500) lastRequest).usage.phase = .returned (.ok ()) ∧
      (run (invoices 100 500) lastRequest).tracking.guards.length = 1 ∧
      ∃ o, (run (invoices 100 500) lastRequest).offers = [o] ∧
        (run (invoices 100 500) lastRequest).usage.books.delivered.flatten = [.ofEvent o.event] := by
  have hgraceful := graceful_run (invoices 100 500) (by decide) lastRequest
  exact ⟨by decide, rfl, rfl, rfl, _, rfl, (hgraceful.lossless rfl rfl rfl).1⟩

/-- Without a flush interval, or with batches for which no room can be asked, the emitter's worker has
broken off, and the event of the request is lost though the buffer is empty. -/
theorem not_graceful_where_stuck :
    ¬Graceful (invoices 100 0) lastRequest ∧
      ¬Graceful (invoices 9223372036854775807 500) lastRequest := by
  constructor
  all_goals
    intro hgraceful
    rcases (hgraceful.lossless rfl rfl rfl).2 _ List.mem_cons_self with h | h
    all_goals cases h

end Gateway

end TenantGateway
