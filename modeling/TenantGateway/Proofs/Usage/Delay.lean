import TenantGateway.Proofs.Usage.Closing

/-! No event waits longer than a flush interval for a sink that takes every batch at once. The flush
timer runs freely and starts anew only after a full batch, so what is bounded is its next tick: it is
due within an interval from the oldest event that has not been published. -/
namespace TenantGateway.Usage

/-- By when the worker gives the batch that it holds to the sink. -/
def Worker.handover (now : Instant) : Worker → Instant
  | .collecting _ timer => timer
  | _ => now

/-- A timer that runs on is due within a period; and no batch has to be published again. -/
def Worker.TimerWithin (now : Instant) (period : Duration) : Worker → Prop
  | .collecting _ timer | .publishing _ _ timer .keepTimer => now ≤ timer ∧ timer ≤ now + period
  | .pausing .. => False
  | _ => True

/-- When the accepted events were offered: those that are published, those that the worker holds, and
those in the buffer, for which no time has passed yet. -/
structure Dated (m : Emitter) (now : Instant) (times past held queued : List Instant) : Prop where
  split : times = past ++ (held ++ queued)
  length_past : past.length = m.stats.published
  length_held : held.length = m.worker.batch.length
  length_queued : queued.length = m.buffer.length
  late : ∀ t ∈ held, m.worker.handover now ≤ t + m.settings.interval
  fresh : ∀ t ∈ queued, t = now

/-- Every event that is not yet published will be in time. -/
structure OnTime (m : Emitter) (now : Instant) (times : List Instant) : Prop where
  timer : m.worker.TimerWithin now m.settings.interval
  dated : ∃ past held queued, Dated m now times past held queued

variable {m n : Emitter} {now : Instant} {times past held queued : List Instant}

private theorem nextTick_within {period : Duration} {timer now : Instant} (hdue : timer ≤ now)
    (hpast : now ≤ timer) :
    now ≤ Instant.nextTick period timer now ∧
      Instant.nextTick period timer now ≤ now + period := by
  simp only [Instant.le_def] at hdue hpast
  unfold Instant.nextTick
  split
  all_goals
    simp only [Instant.le_def, Instant.nanos_add]
    omega

private theorem le_trans_handover {now timer : Instant} {period : Duration} {held : List Instant}
    (hnow : now ≤ timer) (hlate : ∀ t ∈ held, timer ≤ t + period) :
    ∀ t ∈ held, now ≤ t + period :=
  fun t ht => Nat.le_trans hnow (hlate t ht)

private theorem Dated.receive (h : Dated m now times past held queued) {e : Event}
    {rest : List Event} (hbuffer : m.buffer = e :: rest) :
    ∃ queued', queued = now :: queued' ∧ queued'.length = rest.length := by
  have hlength := h.length_queued
  rw [hbuffer] at hlength
  cases queued with
  | nil => cases hlength
  | cons t queued =>
    rw [h.fresh t List.mem_cons_self]
    exact ⟨queued, rfl, Nat.succ.inj hlength⟩

private theorem Dated.received (h : Dated m now times past held queued) {batch : List Event}
    {timer : Instant} {e : Event} {rest : List Event}
    (hworker : m.worker = .collecting batch timer) (hbuffer : m.buffer = e :: rest)
    {worker : Worker} (hbatch : worker.batch = batch ++ [e])
    (hhandover : worker.handover now ≤ timer) (htimer : timer ≤ now + m.settings.interval) :
    ∃ held' queued', Dated { m with buffer := rest, worker } now times past held' queued' := by
  obtain ⟨queued', rfl, hrest⟩ := h.receive hbuffer
  have hheld := h.length_held
  have hlate := h.late
  rw [hworker] at hheld hlate
  refine ⟨held ++ [now], queued', ?_⟩
  exact {
    split := by
      rw [h.split, List.append_assoc]
      rfl
    length_past := h.length_past
    length_held := by
      rw [hbatch, List.length_append, List.length_append, hheld]
      rfl
    length_queued := hrest
    late := by
      intro t ht
      rcases List.mem_append.mp ht with ht | ht
      · exact Nat.le_trans hhandover (hlate t ht)
      · rw [List.mem_singleton.mp ht]
        exact Nat.le_trans hhandover htimer
    fresh := fun t ht => h.fresh t (List.mem_cons_of_mem _ ht) }

private theorem Dated.moved (h : Dated m now times past held queued) {worker : Worker}
    (hbatch : worker.batch = m.worker.batch)
    (hlate : ∀ t ∈ held, worker.handover now ≤ t + m.settings.interval) :
    Dated { m with worker } now times past held queued where
  split := h.split
  length_past := h.length_past
  length_held := by rw [h.length_held, hbatch]
  length_queued := h.length_queued
  late := hlate
  fresh := h.fresh

private theorem Dated.held_eq_nil (h : Dated m now times past held queued)
    (hbatch : m.worker.batch = []) : held = [] := by
  have hlength := h.length_held
  rw [hbatch] at hlength
  exact List.length_eq_zero_iff.mp hlength

private theorem Dated.queued_eq_nil (h : Dated m now times past held queued)
    (hbuffer : m.buffer = []) : queued = [] := by
  have hlength := h.length_queued
  rw [hbuffer] at hlength
  exact List.length_eq_zero_iff.mp hlength

private theorem Dated.emptied (h : Dated m now times past held queued)
    (hempty : m.worker.batch = []) {worker : Worker} (hbatch : worker.batch = []) :
    Dated { m with worker } now times past held queued := by
  apply h.moved (hbatch.trans hempty.symm)
  rw [h.held_eq_nil hempty]
  exact nofun

private theorem OnTime.turn (h : OnTime m now times) (hruns : m.settings.Runnable)
    {a : Action} (ha : a.isTurn) (htime : ∀ t, a = .start t ∨ a = .tick t → t = now)
    (hturn : Turn m a n) : OnTime n now times := by
  obtain ⟨past, held, queued, hdated⟩ := h.dated
  have htimer := h.timer
  cases hturn with
  | idle => exact h
  | broken _ hstuck => exact absurd hruns hstuck
  | @started t hworker _ =>
    cases htime t (.inl rfl)
    exact ⟨⟨Nat.le_add_right _ _, Nat.le_refl _⟩, past, held, queued,
      hdated.emptied (congrArg Worker.batch hworker) rfl⟩
  | received hworker hbuffer _ =>
    rw [hworker] at htimer
    exact ⟨htimer, past, hdated.received hworker hbuffer rfl (Nat.le_refl _) htimer.2⟩
  | filled hworker hbuffer _ =>
    rw [hworker] at htimer
    exact ⟨trivial, past, hdated.received hworker hbuffer rfl htimer.1 htimer.2⟩
  | finished hworker _ _ =>
    exact ⟨trivial, past, held, queued, hdated.emptied (congrArg Worker.batch hworker) rfl⟩
  | lastBatch hworker _ _ _ =>
    have hlate := hdated.late
    rw [hworker] at htimer hlate
    exact ⟨trivial, past, held, queued, hdated.moved (congrArg Worker.batch hworker).symm
      (le_trans_handover htimer.1 hlate)⟩
  | @idleTick timer t hworker hdue =>
    cases htime t (.inr rfl)
    rw [hworker] at htimer
    exact ⟨nextTick_within hdue htimer.1, past, held, queued,
      hdated.emptied (congrArg Worker.batch hworker) rfl⟩
  | @ticked batch timer t hworker hdue _ =>
    cases htime t (.inr rfl)
    have hlate := hdated.late
    rw [hworker] at htimer hlate
    exact ⟨nextTick_within hdue htimer.1, past, held, queued, hdated.moved (congrArg Worker.batch hworker).symm
      (le_trans_handover htimer.1 hlate)⟩
  | published | paused | abandoned => cases ha
  | retried hworker _ =>
    rw [hworker] at htimer
    exact htimer.elim

private theorem OnTime.published (h : OnTime m now times) {batch : List Event} {attempt : Nat}
    {timer : Instant} {next : Continuation} (hworker : m.worker = .publishing batch attempt timer next)
    (batches : Nat) (reports : List Measurement) :
    OnTime
      { m with
        worker := m.resume timer next now
        stats := { m.stats with published := m.stats.published + batch.length, batches }
        reports } now times := by
  obtain ⟨past, held, queued, hdated⟩ := h.dated
  have htimer := h.timer
  have hheld := hdated.length_held
  rw [hworker] at htimer hheld
  have hdated' (worker : Worker) (hbatch : worker.batch = []) :
      Dated { m with
        worker
        stats := { m.stats with published := m.stats.published + batch.length, batches }
        reports } now times (past ++ held) [] queued := {
    split := by
      rw [hdated.split, List.append_assoc]
      rfl
    length_past := by
      rw [List.length_append, hdated.length_past, hheld]
      rfl
    length_held := by
      rw [hbatch]
      rfl
    length_queued := hdated.length_queued
    late := nofun
    fresh := hdated.fresh }
  cases next with
  | resetTimer =>
    exact ⟨⟨Nat.le_add_right _ _, Nat.le_refl _⟩, _, _, _, hdated' _ rfl⟩
  | keepTimer => exact ⟨htimer, _, _, _, hdated' _ rfl⟩
  | exit => exact ⟨trivial, _, _, _, hdated' _ rfl⟩

private theorem OnTime.enqueue (h : OnTime m now times) (e : Event) :
    OnTime (m.enqueue e) now (times ++ [now]) := by
  obtain ⟨past, held, queued, hdated⟩ := h.dated
  refine ⟨h.timer, past, held, queued ++ [now], ?_⟩
  exact {
    split := by
      rw [hdated.split, List.append_assoc, List.append_assoc]
    length_past := hdated.length_past
    length_held := hdated.length_held
    length_queued := by
      simp only [Emitter.enqueue, List.length_append, List.length_singleton, hdated.length_queued]
    late := hdated.late
    fresh := by
      intro t ht
      rcases List.mem_append.mp ht with ht | ht
      · exact hdated.fresh t ht
      · exact List.mem_singleton.mp ht }

private theorem OnTime.redirect (h : OnTime m now times) (hsettings : n.settings = m.settings)
    (hworker : n.worker = m.worker) (hbuffer : n.buffer = m.buffer)
    (hpublished : n.stats.published = m.stats.published) : OnTime n now times := by
  obtain ⟨past, held, queued, hdated⟩ := h.dated
  refine ⟨by rw [hworker, hsettings]; exact h.timer, past, held, queued, ?_⟩
  exact {
    split := hdated.split
    length_past := hpublished ▸ hdated.length_past
    length_held := hworker ▸ hdated.length_held
    length_queued := hbuffer ▸ hdated.length_queued
    late := by
      rw [hworker, hsettings]
      exact hdated.late
    fresh := hdated.fresh }

private theorem OnTime.wait (h : OnTime m now times) {batch : List Event} {timer : Instant}
    (hworker : m.worker = .collecting batch timer) (hbuffer : m.buffer = []) {later : Instant}
    (hnow : now ≤ later) (hlater : later ≤ timer) : OnTime m later times := by
  obtain ⟨past, held, queued, hdated⟩ := h.dated
  have htimer := h.timer
  have hlate := hdated.late
  have hqueued : queued = [] := hdated.queued_eq_nil hbuffer
  rw [hworker] at htimer hlate
  refine ⟨?_, past, held, queued, ?_⟩
  · rw [hworker]
    exact ⟨hlater, Nat.le_trans htimer.2 (Nat.add_le_add_right hnow _)⟩
  · exact { hdated with
      late := by
        rw [hworker]
        exact hlate
      fresh := by
        rw [hqueued]
        exact nofun }

private theorem OnTime.rest (h : OnTime m now times) (hworker : m.worker = .finished)
    (hbuffer : m.buffer = []) (later : Instant) : OnTime m later times := by
  obtain ⟨past, held, queued, hdated⟩ := h.dated
  have hheld : held = [] := hdated.held_eq_nil (by rw [hworker]; rfl)
  have hqueued : queued = [] := hdated.queued_eq_nil hbuffer
  refine ⟨?_, past, held, queued, ?_⟩
  · rw [hworker]
    trivial
  · exact { hdated with
      late := by
        rw [hheld]
        exact nofun
      fresh := by
        rw [hqueued]
        exact nofun }

/-- A step of the worker, or the taking of a batch. -/
inductive Work where
  | start
  | receive
  | tick
  | drain
  | publish

def Work.action (now : Instant) : Work → Action
  | .start => .start now
  | .receive => .receive
  | .tick => .tick now
  | .drain => .drain
  | .publish => .answer true now

/-- An emitter on a clock, with its books. -/
structure Timeline where
  books : Books
  now : Instant
  /-- When each accepted event was offered, in order. -/
  times : List Instant

namespace Timeline

inductive Event where
  | advance (span : Duration)
  | offer (e : Usage.Event)
  | work (w : Work)
  | beginClose

def step (t : Timeline) : Event → Timeline
  | .advance span => { t with now := t.now + span }
  | .offer e =>
    { t with
      books := t.books.step (.record e)
      times := if (t.books.emitter.record e).1 then t.times ++ [t.now] else t.times }
  | .work w => { t with books := t.books.step (w.action t.now) }
  | .beginClose => { t with books := t.books.step .beginClose }

def open_ (settings : EmitterSettings) : Timeline := ⟨.open_ settings, .start, []⟩

def run (settings : EmitterSettings) (events : List Event) : Timeline :=
  events.foldl step (open_ settings)

/-- The worker has nothing to do now: no event is there, and its timer is not due. -/
def Idle (t : Timeline) : Prop :=
  match t.books.emitter.worker with
  | .collecting _ timer =>
    t.books.emitter.buffer = [] ∧ t.books.emitter.isOpen = true ∧ t.now < timer
  | .finished | .gone => True
  | _ => False

/-- Time passes only while the worker has nothing to do, and wakes it when its timer is due. -/
def Prompt (t : Timeline) : Event → Prop
  | .advance span =>
    t.Idle ∧ ∀ batch timer, t.books.emitter.worker = .collecting batch timer → t.now + span ≤ timer
  | _ => True

/-- Time is prompt with every event of a run that starts in a state. -/
def PromptRun (t : Timeline) : List Event → Prop
  | [] => True
  | e :: events => t.Prompt e ∧ PromptRun (t.step e) events

/-- The times of the accepted events that have not been published. -/
def waiting (t : Timeline) : List Instant := t.times.drop t.books.emitter.stats.published

/-- What keeps an emitter on time. -/
structure Running (settings : EmitterSettings) (t : Timeline) : Prop where
  kept : t.books.Kept settings
  vacated : t.books.emitter.Vacated
  onTime : OnTime t.books.emitter t.now t.times
  /-- No batch has been given up. -/
  unfailing : t.books.settled.filterMap Settlement.abandoned? = []
  length_times : t.times.length = t.books.accepted.length

variable {settings : EmitterSettings} {t : Timeline}

private theorem running_open (settings : EmitterSettings) : Running settings (open_ settings) where
  kept := Books.kept_open settings
  vacated := nofun
  onTime := ⟨trivial, [], [], [], rfl, rfl, rfl, rfl, nofun, nofun⟩
  unfailing := rfl
  length_times := rfl

private theorem Running.advance (h : Running settings t) {span : Duration}
    (hprompt : t.Prompt (.advance span)) : Running settings (t.step (.advance span)) where
  kept := h.kept
  vacated := h.vacated
  onTime := by
    obtain ⟨hidle, hdue⟩ := hprompt
    cases hw : t.books.emitter.worker with
    | collecting batch timer =>
      simp only [Idle, hw] at hidle
      exact h.onTime.wait hw hidle.1 (Nat.le_add_right _ _) (hdue batch timer hw)
    | finished =>
      have hempty : t.books.emitter.buffer = [] := (h.vacated (by rw [hw]; rfl)).2
      exact h.onTime.rest hw hempty _
    | gone => exact absurd hw h.kept.not_gone
    | _ =>
      simp only [Idle, hw] at hidle
  unfailing := h.unfailing
  length_times := h.length_times

private theorem Running.offer (h : Running settings t) (hruns : settings.Runnable)
    (e : Usage.Event) : Running settings (t.step (.offer e)) := by
  have hkept := h.kept.step hruns (.record e)
  have hvacated := h.vacated.record e
  rcases t.books.emitter.record_cases e with ⟨-, -, hrecord⟩ | hrecord
  · exact {
      kept := hkept
      vacated := hvacated
      onTime := by
        simp only [step, Books.step, Emitter.act, hrecord, if_true]
        exact h.onTime.enqueue e
      unfailing := h.unfailing
      length_times := by
        simp only [step, Books.step, hrecord, if_true, List.length_append, List.length_singleton,
          h.length_times] }
  · exact {
      kept := hkept
      vacated := hvacated
      onTime := by
        simp only [step, Books.step, Emitter.act, hrecord, Bool.false_eq_true, if_false]
        exact h.onTime.redirect rfl rfl rfl rfl
      unfailing := h.unfailing
      length_times := by
        simp only [step, Books.step, hrecord, Bool.false_eq_true, if_false, h.length_times] }

private theorem Running.turn (h : Running settings t) (hruns : settings.Runnable)
    {a : Action} (ha : a.isTurn) (htime : ∀ s, a = .start s ∨ a = .tick s → s = t.now) :
    Running settings { t with books := t.books.step a } := by
  have hkept := h.kept.step hruns a
  have hturn := t.books.emitter.turn_act (Action.isWork_of_isTurn ha)
  rw [t.books.step_of_isTurn ha] at hkept ⊢
  exact {
    kept := hkept
    vacated := h.vacated.turn hturn
    onTime := h.onTime.turn (by rw [h.kept.unchanged]; exact hruns) ha htime hturn
    unfailing := h.unfailing
    length_times := h.length_times }

private theorem Running.publish (h : Running settings t) (hruns : settings.Runnable) :
    Running settings (t.step (.work .publish)) := by
  have hkept := h.kept.step hruns (.answer true t.now)
  have hvacated := h.vacated.turn (t.books.emitter.turn_act (a := .answer true t.now) rfl)
  cases hw : t.books.emitter.worker with
  | publishing batch attempt timer next =>
    exact {
      kept := hkept
      vacated := hvacated
      onTime := by
        simp only [step, Work.action, Books.step, Emitter.act, Emitter.accepted, hw]
        exact h.onTime.published hw _ _
      unfailing := by
        simp only [step, Work.action, Books.step, Books.settlement?, hw, Worker.atSink?,
          Option.bind_some, if_true, Option.toList_some, List.filterMap_append, h.unfailing]
        rfl
      length_times := h.length_times }
  | _ =>
    have hstep : t.step (.work .publish) = t := by
      simp only [step, Work.action, Books.step, Emitter.act, Emitter.accepted, Books.settlement?,
        hw, Worker.atSink?, Option.bind_none, Option.map_none, Option.toList_none, List.append_nil,
        ite_self]
    rwa [hstep]

private theorem Running.step (h : Running settings t) (hruns : settings.Runnable)
    {e : Event} (hprompt : t.Prompt e) : Running settings (t.step e) := by
  cases e with
  | advance span => exact h.advance hprompt
  | offer e => exact h.offer hruns e
  | work w =>
    cases w with
    | start => exact h.turn hruns rfl (by rintro s (hs | hs) <;> cases hs; rfl)
    | receive => exact h.turn hruns rfl (by rintro s (hs | hs) <;> cases hs)
    | tick => exact h.turn hruns rfl (by rintro s (hs | hs) <;> cases hs; rfl)
    | drain => exact h.turn hruns rfl (by rintro s (hs | hs) <;> cases hs)
    | publish => exact h.publish hruns
  | beginClose =>
    exact {
      kept := h.kept.step hruns .beginClose
      vacated := fun hleaves => ⟨rfl, (h.vacated hleaves).2⟩
      onTime := h.onTime.redirect rfl rfl rfl rfl
      unfailing := h.unfailing
      length_times := h.length_times }

private theorem Running.foldl {events : List Event} (h : Running settings t)
    (hruns : settings.Runnable) (hprompt : PromptRun t events) :
    Running settings (events.foldl Timeline.step t) := by
  induction events generalizing t with
  | nil => exact h
  | cons e events ih => exact ih (h.step hruns hprompt.1) hprompt.2

private def stepsToRest (now : Instant) : Worker → Nat
  | .fresh => 3
  | .collecting _ timer => if now < timer then 2 else 4
  | .publishing _ _ timer .keepTimer => if now < timer then 3 else 5
  | .publishing _ _ _ .resetTimer => 3
  | .publishing _ _ _ .exit => 1
  | _ => 0

-- each event in the buffer may fill a batch, which is then published
private def distance (t : Timeline) : Nat :=
  2 * t.books.emitter.buffer.length + stepsToRest t.now t.books.emitter.worker

private theorem lt_add_period {period : Duration} (hperiod : 0 < period.nanos) (now : Instant) :
    now < now + period :=
  Nat.lt_add_of_pos_right hperiod

private theorem lt_nextTick {period : Duration} (hperiod : 0 < period.nanos) {timer now : Instant}
    (hpast : now ≤ timer) : now < Instant.nextTick period timer now := by
  unfold Instant.nextTick
  split
  · exact lt_add_period hperiod now
  · exact Nat.lt_of_le_of_lt hpast (lt_add_period hperiod timer)

private theorem emitter_work (t : Timeline) (w : Work) :
    (t.step (.work w)).books.emitter = t.books.emitter.act (w.action t.now) :=
  t.books.emitter_step (w.action t.now)

private theorem now_work (t : Timeline) (w : Work) : (t.step (.work w)).now = t.now := rfl

private theorem exists_work_of_fresh (hruns : t.books.emitter.settings.Runnable)
    (hw : t.books.emitter.worker = .fresh) :
    ∃ w, (t.step (.work w)).distance < t.distance := by
  refine ⟨.start, ?_⟩
  have hstart := lt_add_period hruns.1 t.now
  simp only [distance, emitter_work, now_work]
  simp only [Work.action, Emitter.act, Emitter.start, hw, if_pos hruns, stepsToRest, if_pos hstart]
  omega

private theorem exists_work_of_publishing (hruns : t.books.emitter.settings.Runnable)
    {batch : List Usage.Event} {attempt : Nat} {timer : Instant} {next : Continuation}
    (hw : t.books.emitter.worker = .publishing batch attempt timer next) :
    ∃ w, (t.step (.work w)).distance < t.distance := by
  refine ⟨.publish, ?_⟩
  have hstart := lt_add_period hruns.1 t.now
  simp only [distance, emitter_work, now_work, Work.action, Emitter.act, Emitter.accepted, hw]
  cases next with
  | resetTimer =>
    simp only [Emitter.resume, stepsToRest, if_pos hstart]
    omega
  | keepTimer =>
    simp only [Emitter.resume, stepsToRest]
    split
    all_goals omega
  | exit =>
    simp only [Emitter.resume, stepsToRest]
    omega

private theorem exists_work_of_due (hruns : t.books.emitter.settings.Runnable)
    {batch : List Usage.Event} {timer : Instant}
    (hw : t.books.emitter.worker = .collecting batch timer) (hdue : ¬t.now < timer)
    (hnow : t.now ≤ timer) : ∃ w, (t.step (.work w)).distance < t.distance := by
  refine ⟨.tick, ?_⟩
  have hserved : timer ≤ t.now := Nat.le_of_not_lt hdue
  have hnext := lt_nextTick hruns.1 hnow
  simp only [distance, emitter_work, now_work]
  simp only [Work.action, Emitter.act, Emitter.tick, hw, if_pos hserved]
  split
  all_goals
    simp only [stepsToRest, if_neg hdue, if_pos hnext]
    omega

private theorem exists_work_of_collecting {batch : List Usage.Event} {timer : Instant}
    (hw : t.books.emitter.worker = .collecting batch timer) (hearly : t.now < timer)
    (hbusy : ¬t.Idle) : ∃ w, (t.step (.work w)).distance < t.distance := by
  simp only [distance, emitter_work, now_work]
  cases hbuffer : t.books.emitter.buffer with
  | nil =>
    refine ⟨.drain, ?_⟩
    have hclosed : ¬t.books.emitter.isOpen = true := by
      intro hopen
      simp only [Idle, hw] at hbusy
      exact hbusy ⟨hbuffer, hopen, hearly⟩
    simp only [Work.action, Emitter.act, Emitter.drain, hw, hbuffer, if_neg hclosed]
    split
    all_goals
      simp only [stepsToRest, if_pos hearly]
      decide
  | cons e rest =>
    refine ⟨.receive, ?_⟩
    simp only [Work.action, Emitter.act, Emitter.receive, hw, hbuffer, List.length_cons]
    split
    all_goals
      simp only [stepsToRest, if_pos hearly]
      omega

-- by the phases of the worker; a pause does not occur, as the sink has taken every batch
private theorem Running.exists_work (h : Running settings t) (hruns : settings.Runnable)
    (hbusy : ¬t.Idle) : ∃ w, (t.step (.work w)).distance < t.distance := by
  have htimer := h.onTime.timer
  rw [← h.kept.unchanged] at hruns
  cases hw : t.books.emitter.worker with
  | fresh => exact exists_work_of_fresh hruns hw
  | collecting batch timer =>
    rw [hw] at htimer
    by_cases hearly : t.now < timer
    · exact exists_work_of_collecting hw hearly hbusy
    · exact exists_work_of_due hruns hw hearly htimer.1
  | publishing batch attempt timer next => exact exists_work_of_publishing hruns hw
  | pausing batch attempt wake timer next =>
    rw [hw] at htimer
    exact htimer.elim
  | finished | gone =>
    simp only [Idle, hw, not_true] at hbusy

private theorem Running.exists_rest (h : Running settings t) (hruns : settings.Runnable) :
    ∃ works : List Work, ((works.map Event.work).foldl Timeline.step t).Idle ∧
      ((works.map Event.work).foldl Timeline.step t).now = t.now := by
  induction hn : t.distance using Nat.strongRecOn generalizing t with
  | ind n ih =>
    by_cases hidle : t.Idle
    · exact ⟨[], hidle, rfl⟩
    · obtain ⟨w, hw⟩ := h.exists_work hruns hidle
      obtain ⟨works, hrest, hnow⟩ := ih _ (hn ▸ hw) (h.step hruns (e := .work w) trivial) rfl
      exact ⟨w :: works, hrest, hnow⟩

/-- How long an accepted event waits. -/
structure Punctual (settings : EmitterSettings) (t : Timeline) : Prop where
  length_times : t.times.length = t.books.accepted.length
  /-- The events that are published are those that were accepted first. -/
  published : (t.books.settled.filterMap Settlement.published?).flatten =
    t.books.accepted.take t.books.emitter.stats.published
  short : t.Idle →
    t.books.emitter.stats.enqueued < t.books.emitter.stats.published + settings.fullBatch
  recent : ∀ s ∈ t.waiting, t.now ≤ s + settings.interval
  /-- Once the timers that were due by then are served, there is no event any more that was accepted an
  interval before. -/
  served : ∀ batch timer, t.books.emitter.worker = .collecting batch timer →
    ∀ s ∈ t.waiting, timer ≤ s + settings.interval
  /-- A timer that is due is served without time passing: the worker can come to its rest now. -/
  rests : ∃ works : List Work, ((works.map Event.work).foldl step t).Idle ∧
    ((works.map Event.work).foldl step t).now = t.now
  expired : t.Idle → ∀ s ∈ t.waiting, t.now < s + settings.interval
  /-- A tick without events publishes nothing. -/
  quiet : ∀ timer, t.books.emitter.worker = .collecting [] timer →
    (t.step (.work .tick)).books.delivered = t.books.delivered ∧
      (t.step (.work .tick)).books.emitter.worker.atSink? = none

private theorem Running.published (h : Running settings t) :
    (t.books.settled.filterMap Settlement.published?).flatten =
      t.books.accepted.take t.books.emitter.stats.published := by
  rw [h.kept.published, volume, h.kept.sequence, filterMap_published?_of_unfailing h.unfailing,
    List.append_assoc, List.take_left]

private theorem Running.count (h : Running settings t) :
    t.books.emitter.stats.enqueued = t.books.emitter.stats.published +
      (t.books.emitter.worker.batch ++ t.books.emitter.buffer).length := by
  have hcount := h.kept.lost.count
  have hfailed : t.books.emitter.stats.failed = 0 := by
    rw [h.kept.failed, h.unfailing]
    rfl
  rwa [hfailed, Nat.add_zero] at hcount

private theorem Running.short (h : Running settings t) (hidle : t.Idle) :
    t.books.emitter.stats.enqueued < t.books.emitter.stats.published + settings.fullBatch := by
  rw [h.count]
  apply Nat.add_lt_add_left
  have hsized := h.kept.sized
  cases hw : t.books.emitter.worker with
  | collecting batch timer =>
    simp only [Idle, hw] at hidle
    rw [hw] at hsized
    rw [hidle.1, List.append_nil]
    exact hsized
  | finished =>
    have hempty : t.books.emitter.buffer = [] := (h.vacated (by rw [hw]; rfl)).2
    rw [hempty]
    exact Nat.lt_of_lt_of_le Nat.zero_lt_one (Nat.le_max_right _ _)
  | gone => exact absurd hw h.kept.not_gone
  | _ => simp only [Idle, hw] at hidle

private theorem waiting_eq {past held queued : List Instant}
    (h : Dated t.books.emitter t.now t.times past held queued) : t.waiting = held ++ queued := by
  rw [waiting, h.split, ← h.length_past, List.drop_left]

private theorem now_le_handover {w : Worker} {now : Instant} {period : Duration}
    (h : w.TimerWithin now period) : now ≤ w.handover now := by
  cases w with
  | collecting batch timer => exact h.1
  | _ => exact Nat.le_refl _

private theorem Running.recent (h : Running settings t) :
    ∀ s ∈ t.waiting, t.now ≤ s + settings.interval := by
  obtain ⟨past, held, queued, hdated⟩ := h.onTime.dated
  have hlate := hdated.late
  rw [h.kept.unchanged] at hlate
  intro s hs
  rw [waiting_eq hdated] at hs
  rcases List.mem_append.mp hs with hs | hs
  · exact Nat.le_trans (now_le_handover h.onTime.timer) (hlate s hs)
  · rw [hdated.fresh s hs]
    exact Nat.le_add_right _ _

private theorem Running.served (h : Running settings t) {batch : List Usage.Event} {timer : Instant}
    (hw : t.books.emitter.worker = .collecting batch timer) :
    ∀ s ∈ t.waiting, timer ≤ s + settings.interval := by
  obtain ⟨past, held, queued, hdated⟩ := h.onTime.dated
  have hlate := hdated.late
  have htimer := h.onTime.timer
  rw [hw, h.kept.unchanged] at hlate htimer
  intro s hs
  rw [waiting_eq hdated] at hs
  rcases List.mem_append.mp hs with hs | hs
  · exact hlate s hs
  · rw [hdated.fresh s hs]
    exact htimer.2

private theorem Running.expired (h : Running settings t) (hidle : t.Idle) :
    ∀ s ∈ t.waiting, t.now < s + settings.interval := by
  cases hw : t.books.emitter.worker with
  | collecting batch timer =>
    simp only [Idle, hw] at hidle
    exact fun s hs => Nat.lt_of_lt_of_le hidle.2.2 (h.served hw s hs)
  | finished =>
    obtain ⟨past, held, queued, hdated⟩ := h.onTime.dated
    have hempty : t.books.emitter.buffer = [] := (h.vacated (by rw [hw]; rfl)).2
    rw [waiting_eq hdated, hdated.held_eq_nil (by rw [hw]; rfl), hdated.queued_eq_nil hempty]
    exact nofun
  | gone => exact absurd hw h.kept.not_gone
  | _ => simp only [Idle, hw] at hidle

private theorem quiet_tick {timer : Instant}
    (hw : t.books.emitter.worker = .collecting [] timer) :
    (t.step (.work .tick)).books.delivered = t.books.delivered ∧
      (t.step (.work .tick)).books.emitter.worker.atSink? = none := by
  refine ⟨rfl, ?_⟩
  simp only [step, Work.action, Books.step, Emitter.act, Emitter.tick, hw]
  split
  · rfl
  · rw [hw]
    rfl

/-- Over a sink that takes every batch at once, an accepted event is published within a flush interval,
in the order in which it was accepted; a full batch does not wait at all, and no events are no batch. -/
theorem punctual_run (settings : EmitterSettings) (hruns : settings.Runnable)
    (events : List Event) (hprompt : PromptRun (open_ settings) events) :
    Punctual settings (run settings events) := by
  have h : Running settings (run settings events) :=
    (running_open settings).foldl hruns hprompt
  exact {
    length_times := h.length_times
    published := h.published
    short := h.short
    recent := h.recent
    served := fun _ _ hw => h.served hw
    rests := h.exists_rest hruns
    expired := h.expired
    quiet := fun _ hw => quiet_tick hw }

-- Three events at different times in batches of two: the last one comes just after a full batch has
-- set the timer anew, and is published when it fires; the next tick finds nothing.
private def threeEvents : List Event :=
  [.work .start, .advance ⟨100⟩, .offer default, .work .receive, .advance ⟨300⟩, .offer default,
    .work .receive, .work .publish, .offer default, .work .receive, .advance ⟨500⟩, .work .tick,
    .work .publish, .advance ⟨500⟩, .work .tick]

/-- Two ticks, the second of which finds nothing to publish. -/
theorem punctual_run_of_threeEvents :
    (⟨"usage", 4, 2, ⟨500⟩, 1⟩ : EmitterSettings).Runnable ∧
      PromptRun (open_ ⟨"usage", 4, 2, ⟨500⟩, 1⟩) threeEvents ∧
      Punctual ⟨"usage", 4, 2, ⟨500⟩, 1⟩ (run ⟨"usage", 4, 2, ⟨500⟩, 1⟩ threeEvents) ∧
      (run ⟨"usage", 4, 2, ⟨500⟩, 1⟩ threeEvents).times = [⟨100⟩, ⟨400⟩, ⟨400⟩] ∧
      (run ⟨"usage", 4, 2, ⟨500⟩, 1⟩ threeEvents).books.emitter.stats = ⟨3, 0, 3, 0, 2⟩ := by
  have hprompt : PromptRun (open_ ⟨"usage", 4, 2, ⟨500⟩, 1⟩) threeEvents := by
    refine ⟨trivial, ⟨⟨rfl, rfl, show (_ : Instant) < _ by decide⟩, ?_⟩, trivial, trivial,
      ⟨⟨rfl, rfl, show (_ : Instant) < _ by decide⟩, ?_⟩, trivial, trivial, trivial, trivial, trivial,
      ⟨⟨rfl, rfl, show (_ : Instant) < _ by decide⟩, ?_⟩, trivial, trivial,
      ⟨⟨rfl, rfl, show (_ : Instant) < _ by decide⟩, ?_⟩, trivial, trivial⟩
    all_goals
      intro batch timer hw
      cases hw
      exact show (_ : Instant) ≤ _ by decide
  exact ⟨by decide, hprompt, punctual_run _ (by decide) _ hprompt, by decide, by decide⟩

/-- With batches for which no room can be asked the worker breaks off, and an event that has been
accepted before is not published in a thousand nanoseconds, twice the flush interval. -/
theorem not_punctual_where_stuck :
    PromptRun (open_ ⟨"usage", 4, 9223372036854775807, ⟨500⟩, 1⟩)
        [.offer default, .work .start, .advance ⟨1000⟩] ∧
      ¬Punctual ⟨"usage", 4, 9223372036854775807, ⟨500⟩, 1⟩
        (run ⟨"usage", 4, 9223372036854775807, ⟨500⟩, 1⟩
          [.offer default, .work .start, .advance ⟨1000⟩]) := by
  refine ⟨⟨trivial, trivial, ⟨trivial, nofun⟩, trivial⟩, fun hpunctual => ?_⟩
  have hwaits := hpunctual.expired trivial .start List.mem_cons_self
  exact absurd hwaits (by decide)

end Timeline

end TenantGateway.Usage
