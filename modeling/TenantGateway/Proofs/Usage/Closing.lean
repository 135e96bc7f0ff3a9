import TenantGateway.Proofs.Usage.Conservation

/-! Closing an emitter is complete, final and idempotent. The first close waits for the worker, which
goes on as before until it finds the buffer closed and empty, and then has the sink flush; or its limit
runs out first, at any moment, and the worker is stopped where it is. -/
namespace TenantGateway.Usage

/-- How far the first close has come. -/
inductive ClosePhase where
  | notBegun
  /-- It waits for the worker to end. -/
  | draining (limit : Duration)
  /-- It waits for the sink's flush. -/
  | flushing
  | returned (result : Except SinkError Unit)

/-- A call that the sink has got, and its answer if it is to publish. -/
inductive SinkCall where
  | publish (batch : List Event) (taken : Bool)
  | flush

/-- An emitter with its books, the close that has begun first, and the calls to the sink in order. -/
structure Closing where
  books : Books
  phase : ClosePhase
  calls : List SinkCall

namespace Closing

inductive Event where
  | offer (e : Usage.Event)
  | turn (a : Action) (isTurn : a.isTurn)
  | answer (taken : Bool) (now : Instant)
  | close (limit : Duration)
  /-- The close learns that the worker has ended. -/
  | joined
  /-- The sink's flush succeeds. -/
  | flushed
  /-- The limit of the close runs out. -/
  | timedOut

/-- A close; all but the first have their answer at once. -/
def close (c : Closing) (limit : Duration) : Option (Except SinkError Unit) × Closing :=
  if c.books.emitter.isOpen then
    (none, { c with books := c.books.step .beginClose, phase := .draining limit })
  else (some (.ok ()), c)

def step (c : Closing) : Event → Closing
  | .offer e => { c with books := c.books.step (.record e) }
  | .turn a _ => { c with books := c.books.step a }
  | .answer taken now =>
    { c with
      books := c.books.step (.answer taken now)
      calls := c.calls ++ (c.books.emitter.worker.atSink?.map (SinkCall.publish · taken)).toList }
  | .close limit => (c.close limit).2
  | .joined =>
    match c.phase with
    | .draining _ =>
      if c.books.emitter.worker.ended then
        { c with phase := .flushing, calls := c.calls ++ [.flush] }
      else c
    | _ => c
  | .flushed =>
    match c.phase with
    | .flushing => { c with phase := .returned (.ok ()) }
    | _ => c
  | .timedOut =>
    match c.phase with
    | .draining limit =>
      if c.books.emitter.worker.ended then c
      else
        { c with
          books := { c.books with emitter := c.books.emitter.abort }
          phase := .returned (.error (.flushTimeout limit)) }
    | _ => c

def open_ (settings : EmitterSettings) : Closing := ⟨.open_ settings, .notBegun, []⟩

def run (settings : EmitterSettings) (events : List Event) : Closing :=
  events.foldl step (open_ settings)

theorem run_append (settings : EmitterSettings) (events more : List Event) :
    run settings (events ++ more) = more.foldl step (run settings events) := List.foldl_append

end Closing

namespace Worker

/-- It will receive nothing more: it publishes what it has left, or has ended with it. -/
def leaves : Worker → Bool
  | .publishing _ _ _ .exit | .pausing _ _ _ _ .exit | .finished => true
  | _ => false

private theorem atSink?_of_ended {w : Worker} (h : w.ended) : w.atSink? = none := by
  cases w with
  | publishing batch attempt timer next => cases h
  | _ => rfl

end Worker

namespace Emitter

/-- The worker leaves only a buffer that is closed and empty. -/
def Vacated (m : Emitter) : Prop := m.worker.leaves → m.isOpen = false ∧ m.buffer = []

variable {m n : Emitter}

private theorem vacated_of_stays (h : m.worker.leaves = false) : m.Vacated := by
  intro hleaves
  rw [h] at hleaves
  contradiction

private theorem eq_exit_of_leaves {timer now : Instant} {next : Continuation}
    (h : (m.resume timer next now).leaves) : next = .exit := by
  cases next with
  | resetTimer => cases h
  | keepTimer => cases h
  | exit => rfl

/-- A worker that has left does not come back. -/
theorem Vacated.turn (h : m.Vacated) {a : Action} (hturn : Turn m a n) : n.Vacated := by
  cases hturn with
  | idle => exact h
  | broken | started | received | filled | idleTick | ticked => exact vacated_of_stays rfl
  | finished _ hbuffer hclosed => exact fun _ => ⟨hclosed, hbuffer⟩
  | lastBatch _ hbuffer hclosed _ => exact fun _ => ⟨hclosed, hbuffer⟩
  | published hworker | abandoned hworker _ =>
    intro hleaves
    cases eq_exit_of_leaves hleaves
    exact h (by rw [hworker]; rfl)
  | @paused _ _ _ _ next hworker _ | @retried _ _ _ _ _ next hworker _ =>
    intro hleaves
    cases next with
    | resetTimer => cases hleaves
    | keepTimer => cases hleaves
    | exit => exact h (by rw [hworker]; rfl)

/-- Nor does it for an event that is offered. -/
theorem Vacated.record (h : m.Vacated) (e : Event) : (m.record e).2.Vacated := by
  rcases m.record_cases e with ⟨hopen, -, hrecord⟩ | hrecord
  all_goals rw [hrecord]
  · intro hleaves
    rw [(h hleaves).1] at hopen
    cases hopen
  · exact h

private theorem record_of_closed (h : m.isOpen = false) (e : Event) :
    m.record e = (false, m.drop) := by
  rcases m.record_cases e with ⟨hopen, -⟩ | hrecord
  · rw [h] at hopen
    cases hopen
  · exact hrecord

private theorem isOpen_record (m : Emitter) (e : Event) : (m.record e).2.isOpen = m.isOpen := by
  rcases m.record_cases e with ⟨-, -, hrecord⟩ | hrecord
  all_goals
    rw [hrecord]
    rfl

end Emitter

namespace Books

/-- The books follow what the emitter does. -/
theorem emitter_step (b : Books) (a : Action) : (b.step a).emitter = b.emitter.act a := by
  cases a <;> rfl

/-- Work accepts no event. -/
theorem accepted_step_of_isWork (b : Books) {a : Action} (ha : a.isWork) :
    (b.step a).accepted = b.accepted := by
  cases a with
  | record e => cases ha
  | _ => rfl

private theorem step_record_of_closed {b : Books} (h : b.emitter.isOpen = false) (e : Event) :
    b.step (.record e) = { b with emitter := b.emitter.drop, offers := b.offers + 1 } := by
  simp only [step, Emitter.act, Emitter.record_of_closed h, if_false, Bool.false_eq_true]

/-- Once the worker has ended, its steps and the sink's answers change nothing. -/
theorem step_of_ended {b : Books} (h : b.emitter.worker.ended) {a : Action} (ha : a.isWork) :
    b.step a = b := by
  have hact : b.emitter.act a = b.emitter := (b.emitter.turn_act ha).eq_of_ended h
  have hsink := Worker.atSink?_of_ended h
  cases a with
  | record e => cases ha
  | beginClose => cases ha
  | answer taken now =>
    simp only [step, hact, settlement?, hsink, Option.bind_none, Option.map_none,
      Option.toList_none, List.append_nil, ite_self]
  | _ =>
    rw [step_of_isTurn b rfl, hact]

/-- Some accepted events have neither been published nor given up, and the figures tell how many. -/
structure Lost (b : Books) (lost : List Event) : Prop where
  sequence : b.accepted = (b.settled.map Settlement.batch).flatten ++ lost
  count : b.emitter.stats.enqueued =
    b.emitter.stats.published + b.emitter.stats.failed + lost.length

private theorem length_flatten_settled (settled : List Settlement) :
    (settled.map Settlement.batch).flatten.length =
      volume (settled.filterMap Settlement.published?) +
        volume (settled.filterMap Settlement.abandoned?) := by
  induction settled with
  | nil => rfl
  | cons t settled ih =>
    rw [List.map_cons, List.flatten_cons, List.length_append, ih]
    cases t with
    | published batch =>
      have hcons : volume ((.published batch :: settled).filterMap Settlement.published?) =
          batch.length + volume (settled.filterMap Settlement.published?) := List.length_append
      rw [hcons, ← Nat.add_assoc]
      rfl
    | abandoned batch =>
      have hcons : volume ((.abandoned batch :: settled).filterMap Settlement.abandoned?) =
          batch.length + volume (settled.filterMap Settlement.abandoned?) := List.length_append
      rw [hcons, Nat.add_left_comm]
      rfl

/-- What is still on its way has neither been published nor given up. -/
theorem Kept.lost {settings : EmitterSettings} {b : Books} (h : b.Kept settings) :
    b.Lost (b.emitter.worker.batch ++ b.emitter.buffer) where
  sequence := by
    rw [h.sequence, List.append_assoc]
  count := by
    rw [h.enqueued, h.published, h.failed, h.sequence, List.append_assoc, List.length_append,
      length_flatten_settled]

end Books

namespace Closing

/-- All that an event can lead to. -/
inductive Move (c : Closing) : Event → Closing → Prop where
  | idle (e : Event) : Move c e c
  | offered (e : Usage.Event) : Move c (.offer e) { c with books := c.books.step (.record e) }
  | worked {e : Event} {a : Action} (work : a.isWork) {calls : List SinkCall}
      (unflushed : .flush ∉ calls) (quiet : c.books.emitter.worker.ended → calls = []) :
      Move c e { c with books := c.books.step a, calls := c.calls ++ calls }
  | begun (limit : Duration) (isOpen : c.books.emitter.isOpen = true) :
      Move c (.close limit) { c with books := c.books.step .beginClose, phase := .draining limit }
  | joined {limit : Duration} (phase : c.phase = .draining limit)
      (ended : c.books.emitter.worker.ended) :
      Move c .joined { c with phase := .flushing, calls := c.calls ++ [.flush] }
  | flushed (phase : c.phase = .flushing) : Move c .flushed { c with phase := .returned (.ok ()) }
  | timedOut {limit : Duration} (phase : c.phase = .draining limit)
      (working : ¬c.books.emitter.worker.ended) :
      Move c .timedOut
        { c with
          books := { c.books with emitter := { c.books.emitter with worker := .gone, buffer := [] } }
          phase := .returned (.error (.flushTimeout limit)) }

/-- Every event makes one of the moves. -/
theorem move_step (c : Closing) (e : Event) : Move c e (c.step e) := by
  cases e with
  | offer e => exact .offered e
  | turn a ha =>
    have hwork : Move c (.turn a ha) { c with books := c.books.step a, calls := c.calls ++ [] } :=
      .worked (Action.isWork_of_isTurn ha) List.not_mem_nil fun _ => rfl
    rwa [List.append_nil] at hwork
  | answer taken now =>
    refine .worked rfl ?_ ?_
    · intro hmem
      obtain ⟨batch, -, hcall⟩ := Option.map_eq_some_iff.mp (Option.mem_toList.mp hmem)
      cases hcall
    · intro hended
      rw [Worker.atSink?_of_ended hended]
      rfl
  | close limit =>
    rw [step, close]
    split
    next hopen => exact .begun limit hopen
    next => exact .idle _
  | joined =>
    rw [step]
    split
    next limit hphase =>
      split
      next hended => exact .joined hphase hended
      next => exact .idle _
    next => exact .idle _
  | flushed =>
    rw [step]
    split
    next hphase => exact .flushed hphase
    next => exact .idle _
  | timedOut =>
    rw [step]
    split
    next limit hphase =>
      split
      next => exact .idle _
      next hworking =>
        rw [Emitter.abort, if_neg hworking]
        exact .timedOut hphase hworking
    next => exact .idle _

/-- What holds in each phase of the first close. -/
inductive Standing (settings : EmitterSettings) (c : Closing) : Prop where
  | inService (phase : c.phase = .notBegun) (isOpen : c.books.emitter.isOpen = true)
      (kept : c.books.Kept settings) (unflushed : .flush ∉ c.calls)
  | draining {limit : Duration} (phase : c.phase = .draining limit)
      (closed : c.books.emitter.isOpen = false) (kept : c.books.Kept settings)
      (unflushed : .flush ∉ c.calls)
  | complete (phase : c.phase = .flushing ∨ c.phase = .returned (.ok ()))
      (closed : c.books.emitter.isOpen = false) (kept : c.books.Kept settings)
      (worker : c.books.emitter.worker = .finished) {attempts : List SinkCall}
      (calls : c.calls = attempts ++ [.flush]) (once : .flush ∉ attempts)
  | cutOff {limit : Duration} (phase : c.phase = .returned (.error (.flushTimeout limit)))
      (closed : c.books.emitter.isOpen = false) (worker : c.books.emitter.worker = .gone)
      (unflushed : .flush ∉ c.calls) {lost : List Usage.Event} (books : c.books.Lost lost)

variable {settings : EmitterSettings} {c d : Closing}

private theorem Standing.offer (h : Standing settings c) (hruns : settings.Runnable)
    (e : Usage.Event) : Standing settings { c with books := c.books.step (.record e) } := by
  cases h with
  | inService hphase hopen hkept hcalls =>
    have hstays : (c.books.step (.record e)).emitter.isOpen = true :=
      (c.books.emitter.isOpen_record e).trans hopen
    exact .inService hphase hstays (hkept.step hruns (.record e)) hcalls
  | draining hphase hclosed hkept hcalls =>
    have hstays : (c.books.step (.record e)).emitter.isOpen = false :=
      (c.books.emitter.isOpen_record e).trans hclosed
    exact .draining hphase hstays (hkept.step hruns (.record e)) hcalls
  | complete hphase hclosed hkept hworker hcalls honce =>
    have hbooks := hkept.step hruns (.record e)
    rw [Books.step_record_of_closed hclosed] at hbooks ⊢
    exact .complete hphase hclosed hbooks hworker hcalls honce
  | cutOff hphase hclosed hworker hcalls hlost =>
    rw [Books.step_record_of_closed hclosed]
    exact .cutOff hphase hclosed hworker hcalls ⟨hlost.sequence, hlost.count⟩

private theorem Standing.work (h : Standing settings c) (hruns : settings.Runnable)
    {a : Action} (ha : a.isWork) {calls : List SinkCall} (hflush : .flush ∉ calls)
    (hcalls : c.books.emitter.worker.ended → calls = []) :
    Standing settings { c with books := c.books.step a, calls := c.calls ++ calls } := by
  have hopen : (c.books.step a).emitter.isOpen = c.books.emitter.isOpen := by
    rw [Books.emitter_step, (c.books.emitter.turn_act ha).isOpen_eq]
  have hunflushed : .flush ∉ c.calls → .flush ∉ c.calls ++ calls := by
    intro hnot hmem
    exact (List.mem_append.mp hmem).elim hnot hflush
  have hsame : c.books.emitter.worker.ended →
      ({ c with books := c.books.step a, calls := c.calls ++ calls } : Closing) = c := by
    intro hended
    rw [Books.step_of_ended hended ha, hcalls hended, List.append_nil]
  cases h with
  | inService hphase hstate hkept hpast =>
    exact .inService hphase (hopen.trans hstate) (hkept.step hruns a) (hunflushed hpast)
  | draining hphase hstate hkept hpast =>
    exact .draining hphase (hopen.trans hstate) (hkept.step hruns a) (hunflushed hpast)
  | complete hphase hclosed hkept hworker hpast honce =>
    rw [hsame (by rw [hworker]; rfl)]
    exact .complete hphase hclosed hkept hworker hpast honce
  | cutOff hphase hclosed hworker hpast hlost =>
    rw [hsame (by rw [hworker]; rfl)]
    exact .cutOff hphase hclosed hworker hpast hlost

/-- A worker that is well and has ended has come to its end. -/
theorem finished_of_ended {b : Books} (h : b.Kept settings)
    (hended : b.emitter.worker.ended) : b.emitter.worker = .finished := by
  cases hw : b.emitter.worker with
  | finished => rfl
  | gone => exact absurd hw h.not_gone
  | _ =>
    rw [hw] at hended
    cases hended

private theorem Standing.of_draining (h : Standing settings c) {limit : Duration}
    (hphase : c.phase = .draining limit) :
    c.books.emitter.isOpen = false ∧ c.books.Kept settings ∧ .flush ∉ c.calls := by
  cases h with
  | inService hother =>
    rw [hphase] at hother
    cases hother
  | draining _ hclosed hkept hcalls => exact ⟨hclosed, hkept, hcalls⟩
  | complete hother =>
    rw [hphase] at hother
    rcases hother with hother | hother
    all_goals cases hother
  | cutOff hother =>
    rw [hphase] at hother
    cases hother

private theorem Standing.move (h : Standing settings c) (hruns : settings.Runnable)
    {e : Event} (hmove : Move c e d) : Standing settings d := by
  cases hmove with
  | idle => exact h
  | offered e => exact h.offer hruns e
  | worked ha hflush hquiet => exact h.work hruns ha hflush hquiet
  | begun limit hopen =>
    cases h with
    | inService hphase _ hkept hcalls =>
      exact .draining rfl rfl (hkept.step hruns .beginClose) hcalls
    | draining _ hclosed | complete _ hclosed | cutOff _ hclosed =>
      rw [hclosed] at hopen
      cases hopen
  | joined hphase hended =>
    obtain ⟨hclosed, hkept, hcalls⟩ := h.of_draining hphase
    exact .complete (.inl rfl) hclosed hkept (finished_of_ended hkept hended) rfl hcalls
  | flushed hphase =>
    cases h with
    | complete _ hclosed hkept hworker hcalls honce =>
      exact .complete (.inr rfl) hclosed hkept hworker hcalls honce
    | inService hother | draining hother | cutOff hother =>
      rw [hphase] at hother
      cases hother
  | timedOut hphase hworking =>
    obtain ⟨hclosed, hkept, hcalls⟩ := h.of_draining hphase
    have hlost := hkept.lost
    exact .cutOff rfl hclosed rfl hcalls ⟨hlost.sequence, hlost.count⟩

/-- Where the worker can run, every run keeps the close in its standing. -/
theorem standing_run (hruns : settings.Runnable) (events : List Event) :
    Standing settings (run settings events) := by
  induction events using List.reverseRecOn with
  | nil => exact .inService rfl rfl (Books.kept_open settings) List.not_mem_nil
  | append_singleton events e ih =>
    rw [run_append]
    exact ih.move hruns (move_step _ e)

private theorem vacated_move (h : c.books.emitter.Vacated) {e : Event} (hmove : Move c e d) :
    d.books.emitter.Vacated := by
  cases hmove with
  | idle | joined | flushed => exact h
  | offered e => exact h.record e
  | worked ha =>
    rw [Books.emitter_step]
    exact h.turn (c.books.emitter.turn_act ha)
  | begun => exact fun hleaves => ⟨rfl, (h hleaves).2⟩
  | timedOut => exact nofun

/-- In every run, a worker that has left leaves nothing behind. -/
theorem vacated_run (events : List Event) :
    (run settings events).books.emitter.Vacated := by
  induction events using List.reverseRecOn with
  | nil => exact nofun
  | append_singleton events e ih =>
    rw [run_append]
    exact vacated_move ih (move_step _ e)

private theorem isOpen_move (h : c.phase = .notBegun → c.books.emitter.isOpen = true) {e : Event}
    (hmove : Move c e d) : d.phase = .notBegun → d.books.emitter.isOpen = true := by
  cases hmove with
  | idle => exact h
  | offered e => exact fun hphase => (c.books.emitter.isOpen_record e).trans (h hphase)
  | worked ha =>
    rw [Books.emitter_step, (c.books.emitter.turn_act ha).isOpen_eq]
    exact h
  | begun | joined | flushed | timedOut => exact nofun

/-- Until a close begins, the emitter is open. -/
theorem isOpen_of_notBegun {events : List Event} (h : (run settings events).phase = .notBegun) :
    (run settings events).books.emitter.isOpen = true := by
  induction events using List.reverseRecOn with
  | nil => rfl
  | append_singleton events e ih =>
    rw [run_append] at h ⊢
    exact isOpen_move ih (move_step _ e) h

/-- Two closings agree on all but what has been dropped. -/
structure SameOutcome (c d : Closing) : Prop where
  phase : d.phase = c.phase
  calls : d.calls = c.calls
  accepted : d.books.accepted = c.books.accepted
  settled : d.books.settled = c.books.settled
  delivered : d.books.delivered = c.books.delivered

private theorem SameOutcome.trans {e : Closing} (h : SameOutcome c d) (h' : SameOutcome d e) :
    SameOutcome c e where
  phase := h'.phase.trans h.phase
  calls := h'.calls.trans h.calls
  accepted := h'.accepted.trans h.accepted
  settled := h'.settled.trans h.settled
  delivered := h'.delivered.trans h.delivered

private theorem sameOutcome_self (c : Closing) : SameOutcome c c := ⟨rfl, rfl, rfl, rfl, rfl⟩

private theorem Standing.closed_of_begun (h : Standing settings c) (hbegun : c.phase ≠ .notBegun) :
    c.books.emitter.isOpen = false := by
  cases h with
  | inService hphase => exact absurd hphase hbegun
  | draining _ hclosed | complete _ hclosed | cutOff _ hclosed => exact hclosed

private theorem Standing.ended_of_returned (h : Standing settings c) {r : Except SinkError Unit}
    (hreturned : c.phase = .returned r) : c.books.emitter.worker.ended := by
  cases h with
  | inService hphase | draining hphase =>
    rw [hreturned] at hphase
    cases hphase
  | complete _ _ _ hworker | cutOff _ _ hworker =>
    rw [hworker]
    rfl

private theorem Standing.sameOutcome (h : Standing settings c) {r : Except SinkError Unit}
    (hreturned : c.phase = .returned r) {e : Event} (hmove : Move c e d) : SameOutcome c d := by
  have hclosed : c.books.emitter.isOpen = false := by
    apply h.closed_of_begun
    rw [hreturned]
    exact nofun
  cases hmove with
  | idle => exact sameOutcome_self c
  | offered e =>
    rw [Books.step_record_of_closed hclosed]
    exact ⟨rfl, rfl, rfl, rfl, rfl⟩
  | worked ha _ hquiet =>
    have hended := h.ended_of_returned hreturned
    rw [Books.step_of_ended hended ha, hquiet hended, List.append_nil]
    exact sameOutcome_self c
  | begun limit hopen =>
    rw [hclosed] at hopen
    cases hopen
  | joined hphase | flushed hphase | timedOut hphase =>
    rw [hreturned] at hphase
    cases hphase

private theorem Standing.final (h : Standing settings c) (hruns : settings.Runnable)
    {r : Except SinkError Unit} (hreturned : c.phase = .returned r) (more : List Event) :
    SameOutcome c (more.foldl Closing.step c) := by
  induction more generalizing c with
  | nil => exact sameOutcome_self c
  | cons e more ih =>
    have hfirst := h.sameOutcome hreturned (move_step c e)
    exact hfirst.trans (ih (h.move hruns (move_step c e)) (hfirst.phase.trans hreturned))

/-- How an emitter closes. -/
structure Orderly (c : Closing) : Prop where
  /-- Once a close has begun, an offered event is dropped, and nothing else comes of it. -/
  shut : c.phase ≠ .notBegun → ∀ e, (c.books.emitter.record e).1 = false ∧
    c.step (.offer e) = { c with books := { c.books with
      emitter := c.books.emitter.drop, offers := c.books.offers + 1 } }
  /-- All is settled, and the one flush of the sink comes after all that is published. -/
  complete : c.phase = .returned (.ok ()) →
    c.books.emitter.buffer = [] ∧ c.books.emitter.worker.batch = [] ∧
      c.books.emitter.stats.enqueued =
        c.books.emitter.stats.published + c.books.emitter.stats.failed ∧
      ∃ attempts, c.calls = attempts ++ [.flush] ∧ .flush ∉ attempts
  /-- The figures tell how many events are lost. -/
  cutOff : ∀ error, c.phase = .returned (.error error) →
    (∃ limit, error = .flushTimeout limit) ∧ .flush ∉ c.calls ∧ ∃ lost, c.books.Lost lost
  /-- Nothing is published, settled or asked of the sink after the first close has returned. -/
  final : ∀ r, c.phase = .returned r → ∀ more : List Event, SameOutcome c (more.foldl step c)
  idempotent : c.phase ≠ .notBegun → ∀ limit, c.close limit = (some (.ok ()), c)

/-- A close that has succeeded leaves nothing in the buffer or with the worker, and has flushed the
sink last. -/
theorem Standing.complete_of_returned (h : Standing settings c)
    (hvacated : c.books.emitter.Vacated) (hreturned : c.phase = .returned (.ok ())) :
    c.books.emitter.buffer = [] ∧ c.books.emitter.worker.batch = [] ∧
      c.books.emitter.stats.enqueued =
        c.books.emitter.stats.published + c.books.emitter.stats.failed ∧
      ∃ attempts, c.calls = attempts ++ [.flush] ∧ .flush ∉ attempts := by
  cases h with
  | complete _ hclosed hkept hworker hcalls honce =>
    have hempty : c.books.emitter.buffer = [] := (hvacated (by rw [hworker]; rfl)).2
    have hbatch : c.books.emitter.worker.batch = [] := by
      rw [hworker]
      rfl
    have hcount := hkept.lost.count
    rw [hbatch, hempty] at hcount
    exact ⟨hempty, hbatch, hcount, _, hcalls, honce⟩
  | inService hphase | draining hphase | cutOff hphase =>
    rw [hreturned] at hphase
    cases hphase

private theorem Standing.cutOff_of_returned (h : Standing settings c) {error : SinkError}
    (hreturned : c.phase = .returned (.error error)) :
    (∃ limit, error = .flushTimeout limit) ∧ .flush ∉ c.calls ∧ ∃ lost, c.books.Lost lost := by
  cases h with
  | cutOff hphase _ _ hcalls hlost =>
    rw [hreturned] at hphase
    cases hphase
    exact ⟨⟨_, rfl⟩, hcalls, _, hlost⟩
  | complete hphase =>
    rw [hreturned] at hphase
    rcases hphase with hphase | hphase
    all_goals cases hphase
  | inService hphase | draining hphase =>
    rw [hreturned] at hphase
    cases hphase

/-- Where the worker can run, an emitter closes in good order, whatever its worker is at when the first
close begins, whenever the limit runs out, and however often the sink fails to publish. -/
theorem orderly_run (settings : EmitterSettings) (hruns : settings.Runnable)
    (events : List Event) : (run settings events).Orderly := by
  have hstanding := standing_run hruns events
  exact {
    shut := by
      intro hbegun e
      have hclosed := hstanding.closed_of_begun hbegun
      have hstep : (run settings events).step (.offer e) =
          { run settings events with books := (run settings events).books.step (.record e) } := rfl
      rw [hstep, Books.step_record_of_closed hclosed, Emitter.record_of_closed hclosed]
      exact ⟨rfl, rfl⟩
    complete := hstanding.complete_of_returned (vacated_run events)
    cutOff := fun _ hreturned => hstanding.cutOff_of_returned hreturned
    final := fun _ hreturned more => hstanding.final hruns hreturned more
    idempotent := fun hbegun limit => if_neg (by
      rw [hstanding.closed_of_begun hbegun]
      decide) }

/-- A close whose limit runs out while a batch of two waits to be published again and a third event
is in the buffer; a fourth comes too late. -/
theorem orderly_run_of_pause :
    (⟨"usage", 4, 2, ⟨500⟩, 1⟩ : EmitterSettings).Runnable ∧
      (run ⟨"usage", 4, 2, ⟨500⟩, 1⟩
        [.turn (.start ⟨0⟩) rfl, .offer default, .offer default, .offer default,
          .turn .receive rfl, .turn .receive rfl, .answer false ⟨1⟩, .close (.ofMillis 50),
          .offer default, .timedOut]).Orderly ∧
      (run ⟨"usage", 4, 2, ⟨500⟩, 1⟩
        [.turn (.start ⟨0⟩) rfl, .offer default, .offer default, .offer default,
          .turn .receive rfl, .turn .receive rfl, .answer false ⟨1⟩, .close (.ofMillis 50),
          .offer default, .timedOut]).books.emitter.stats = ⟨3, 1, 0, 0, 0⟩ :=
  ⟨by decide, orderly_run ⟨"usage", 4, 2, ⟨500⟩, 1⟩ (by decide) _, by decide⟩

/-- Without a flush interval, or with batches for which no room can be asked, the worker has broken off,
and a close succeeds though an accepted event has been neither published nor given up. -/
theorem not_orderly_where_stuck :
    let events : List Event :=
      [.offer default, .turn (.start ⟨0⟩) rfl, .close (.ofMillis 50), .joined, .flushed]
    ¬(run ⟨"usage", 4, 2, ⟨0⟩, 1⟩ events).Orderly ∧
      ¬(run ⟨"usage", 4, 9223372036854775807, ⟨500⟩, 1⟩ events).Orderly :=
  ⟨fun h => absurd (h.complete rfl).2.2.1 (by decide),
    fun h => absurd (h.complete rfl).2.2.1 (by decide)⟩

end Closing

end TenantGateway.Usage
