import TenantGateway.Proofs.Usage.Conservation

/-! A batch that the worker has handed to the sink. It is tried again after longer and longer
pauses, until the sink takes it or the retries are used up. What else happens to the emitter in the
meantime happens as if there were no batch. -/
namespace TenantGateway.Usage

/-- How long the worker still pauses at `now`. -/
def Worker.pause? (now : Instant) : Worker → Option Duration
  | .pausing _ _ wake _ _ => some (wake.since now)
  | _ => none

/-- How often the worker has tried its batch again. -/
def Worker.attempt : Worker → Nat
  | .publishing _ attempt _ _ | .pausing _ attempt _ _ _ => attempt
  | _ => 0

/-- What is reported of a batch that has left the worker, the latest first. -/
def Settlement.reports : Settlement → List Measurement
  | .published batch =>
    [.usageBatch, .usageEvents "published" (UInt64.ofNat batch.length)]
  | .abandoned batch => [.usageEvents "failed" (UInt64.ofNat batch.length)]

/-- The pause before the next try of a batch that has been refused `n + 1` times. -/
def pauseAfter (n : Nat) : Duration := .ofMillis (100 * (n + 1))

namespace Emitter

/-- A batch has left the worker, which goes on from `next`. -/
def settled (m : Emitter) (s : Settlement) (timer : Instant) (next : Continuation) (now : Instant) :
    Emitter :=
  { m with
    worker := m.resume timer next now
    stats := s.counted m.stats
    reports := s.reports ++ m.reports }

end Emitter

/-- A batch that the worker has handed to the sink, and what has happened since. -/
structure Delivery where
  emitter : Emitter
  /-- The emitter as the offers of events and the close alone would have left it. -/
  aside : Emitter
  /-- What the sink got in each of the calls that it has answered. -/
  calls : List (List SinkRecord)
  /-- The pauses between two calls. -/
  pauses : List Duration
  settlement : Option Settlement

namespace Delivery

inductive Happening where
  | offer (e : Event)
  | close
  | turn (a : Action) (isTurn : a.isTurn)
  /-- The sink answers the call that it has got. -/
  | answer (now : Instant)

def open_ (m : Emitter) : Delivery := ⟨m, m, [], [], none⟩

/-- The sink answers its calls one after the other as `outcomes` has it. -/
def answer (outcomes : Nat → Bool) (d : Delivery) (now : Instant) : Delivery :=
  match d.emitter.worker.atSink? with
  | none => d
  | some batch =>
    let taken := outcomes d.calls.length
    let m := d.emitter.act (.answer taken now)
    { d with
      emitter := m
      calls := d.calls ++ [batch.map SinkRecord.ofEvent]
      pauses := d.pauses ++ (m.worker.pause? now).toList
      settlement := Books.settlement? d.emitter taken now }

/-- What happens to a batch that is not yet settled; a settled one is followed no further. -/
def step (outcomes : Nat → Bool) (d : Delivery) (h : Happening) : Delivery :=
  if d.settlement.isSome then d
  else
    match h with
    | .offer e => { d with emitter := (d.emitter.record e).2, aside := (d.aside.record e).2 }
    | .close => { d with emitter := d.emitter.beginClose, aside := d.aside.beginClose }
    | .turn a _ => { d with emitter := d.emitter.act a }
    | .answer now => d.answer outcomes now

def follow (outcomes : Nat → Bool) (m : Emitter) (happenings : List Happening) : Delivery :=
  happenings.foldl (step outcomes) (open_ m)

end Delivery

namespace Emitter

variable {m n : Emitter} {batch : List Event} {attempt : Nat} {timer now : Instant}
  {next : Continuation}

/-- A batch that the sink takes is published. -/
theorem accepted_of_publishing (h : m.worker = .publishing batch attempt timer next) :
    m.accepted now = m.settled (.published batch) timer next now := by
  rw [accepted, h]
  rfl

private theorem refused_of_again (h : m.worker = .publishing batch attempt timer next)
    (hagain : attempt < m.settings.retries) (now : Instant) :
    m.refused now =
      { m with worker := .pausing batch (attempt + 1) (now + pauseAfter attempt) timer next } := by
  have hpause : pauseAfter attempt = ⟨pauseUnit.nanos * (attempt + 1)⟩ :=
    congrArg Duration.mk (Nat.mul_assoc _ _ _).symm
  rw [refused, h, hpause]
  exact if_pos hagain

/-- A batch that the sink refuses for the last time is given up. -/
theorem refused_of_last (h : m.worker = .publishing batch attempt timer next)
    (hlast : m.settings.retries ≤ attempt) :
    m.refused now = m.settled (.abandoned batch) timer next now := by
  rw [refused, h]
  exact if_neg (Nat.not_lt.mpr hlast)

/-- The books note a batch that is taken as published. -/
theorem settlement?_of_taken (h : m.worker = .publishing batch attempt timer next) :
    Books.settlement? m true now = some (.published batch) := by
  rw [Books.settlement?, h]
  rfl

private theorem settlement?_of_again (h : m.worker = .publishing batch attempt timer next)
    (hagain : attempt < m.settings.retries) (now : Instant) :
    Books.settlement? m false now = none := by
  rw [Books.settlement?, refused_of_again h hagain, h]
  rfl

/-- The books note a batch that is refused for the last time as given up. -/
theorem settlement?_of_last (h : m.worker = .publishing batch attempt timer next)
    (hlast : m.settings.retries ≤ attempt) :
    Books.settlement? m false now = some (.abandoned batch) := by
  rw [Books.settlement?, refused_of_last h hlast, h]
  cases next <;> rfl

private theorem record_withWorker (m : Emitter) (e : Event) {w : Worker}
    (hm : m.worker.ended = false) (hw : w.ended = false) :
    ({ m with worker := w }.record e).2 = { (m.record e).2 with worker := w } := by
  simp only [record, hm, hw]
  split <;> rfl

private theorem worker_record (m : Emitter) (e : Event) : (m.record e).2.worker = m.worker := by
  rcases m.record_cases e with ⟨-, -, hrecord⟩ | hrecord
  all_goals
    rw [hrecord]
    rfl

private theorem settings_record (m : Emitter) (e : Event) :
    (m.record e).2.settings = m.settings := by
  rcases m.record_cases e with ⟨-, -, hrecord⟩ | hrecord
  all_goals
    rw [hrecord]
    rfl

end Emitter

namespace Delivery

section

variable (outcomes : Nat → Bool) (settings : EmitterSettings) (batch : List Event)
  (timer : Instant) (next : Continuation)

/-- A batch that has been refused whenever it was tried, and can be tried again. -/
structure Underway (d : Delivery) : Prop where
  unchanged : d.aside.settings = settings
  unsettled : d.settlement = none
  within : d.calls.length ≤ settings.retries
  refused : ∀ i < d.calls.length, outcomes i = false
  waits : d.emitter.worker = .publishing batch d.calls.length timer next ∨
    ∃ wake, d.emitter.worker = .pausing batch d.calls.length wake timer next
  /-- The emitter is as if there were no batch, but for the worker's phase. -/
  beside : d.emitter = { d.aside with worker := d.emitter.worker }
  busy : d.aside.worker.ended = false
  calls : d.calls = List.replicate d.calls.length (batch.map SinkRecord.ofEvent)
  pauses : d.pauses = (List.range d.calls.length).map pauseAfter

/-- A batch that has left the worker. -/
structure Over (d : Delivery) (s : Settlement) : Prop where
  settlement : d.settlement = some s
  within : d.pauses.length ≤ settings.retries
  refused : ∀ i < d.pauses.length, outcomes i = false
  /-- The last call decides. -/
  verdict : (outcomes d.pauses.length = true ∧ s = .published batch) ∨
    (outcomes d.pauses.length = false ∧ d.pauses.length = settings.retries ∧ s = .abandoned batch)
  settled : ∃ now, d.emitter = d.aside.settled s timer next now
  calls : d.calls = List.replicate (d.pauses.length + 1) (batch.map SinkRecord.ofEvent)
  pauses : d.pauses = (List.range d.pauses.length).map pauseAfter

end

variable {outcomes : Nat → Bool} {settings : EmitterSettings} {batch : List Event} {timer : Instant}
  {next : Continuation} {d : Delivery}

private theorem Underway.busy_emitter (h : Underway outcomes settings batch timer next d) :
    d.emitter.worker.ended = false := by
  rcases h.waits with hw | ⟨wake, hw⟩
  all_goals
    rw [hw]
    rfl

/-- The emitter keeps its settings meanwhile. -/
theorem Underway.settings_emitter (h : Underway outcomes settings batch timer next d) :
    d.emitter.settings = settings := by
  rw [h.beside]
  exact h.unchanged

private theorem Underway.offer (h : Underway outcomes settings batch timer next d) (e : Event) :
    Underway outcomes settings batch timer next
      { d with emitter := (d.emitter.record e).2, aside := (d.aside.record e).2 } := by
  exact { h with
    unchanged := (d.aside.settings_record e).trans h.unchanged
    waits := by
      rw [Emitter.worker_record]
      exact h.waits
    beside := by
      rw [Emitter.worker_record]
      conv_lhs => rw [h.beside]
      exact Emitter.record_withWorker d.aside e h.busy h.busy_emitter
    busy := by
      rw [Emitter.worker_record]
      exact h.busy }

private theorem Underway.turn (h : Underway outcomes settings batch timer next d) {a : Action}
    (ha : a.isTurn) :
    Underway outcomes settings batch timer next { d with emitter := d.emitter.act a } := by
  have hwork := d.emitter.turn_act (Action.isWork_of_isTurn ha)
  generalize d.emitter.act a = m at hwork
  cases hwork with
  | idle => exact h
  | published | paused | abandoned => cases ha
  | retried hworker hdue =>
    rcases h.waits with hw | ⟨wake, hw⟩
    · rw [hworker] at hw
      cases hw
    · rw [hworker] at hw
      cases hw
      exact { h with
        waits := .inl rfl
        beside := by
          conv_lhs => rw [h.beside] }
  | broken hworker | started hworker | received hworker | filled hworker | finished hworker
  | lastBatch hworker | idleTick hworker | ticked hworker =>
    rcases h.waits with hw | ⟨wake, hw⟩
    all_goals
      rw [hworker] at hw
      cases hw

/-- Until the batch is settled, a pause follows each call. -/
theorem Underway.length_pauses (h : Underway outcomes settings batch timer next d) :
    d.pauses.length = d.calls.length := by
  rw [h.pauses, List.length_map, List.length_range]

private theorem pause?_resume (m : Emitter) (timer : Instant) (next : Continuation)
    (t now : Instant) : (m.resume timer next t).pause? now = none := by
  cases next <;> rfl

private theorem Underway.over (h : Underway outcomes settings batch timer next d) {now : Instant}
    {s : Settlement} {taken : Bool}
    (hw : d.emitter.worker = .publishing batch d.calls.length timer next)
    (htaken : outcomes d.calls.length = taken)
    (hact : d.emitter.act (.answer taken now) = d.emitter.settled s timer next now)
    (hsettlement : Books.settlement? d.emitter taken now = some s)
    (hverdict : (taken = true ∧ s = .published batch) ∨
      (taken = false ∧ d.calls.length = settings.retries ∧ s = .abandoned batch)) :
    Over outcomes settings batch timer next (d.answer outcomes now) s := by
  have hlength := h.length_pauses
  have hanswer : d.answer outcomes now = { d with
      emitter := d.emitter.settled s timer next now
      calls := d.calls ++ [batch.map SinkRecord.ofEvent]
      settlement := some s } := by
    rw [Delivery.answer, hw]
    simp only [Worker.atSink?, htaken, hact, hsettlement]
    rw [Emitter.settled, pause?_resume, Option.toList_none, List.append_nil]
  rw [hanswer]
  exact {
    settlement := rfl
    within := hlength ▸ h.within
    refused := hlength ▸ h.refused
    verdict := by
      rw [hlength, htaken]
      exact hverdict
    settled := by
      refine ⟨now, ?_⟩
      conv_lhs => rw [h.beside]
      rfl
    calls := by
      rw [hlength, List.replicate_succ', ← h.calls]
    pauses := hlength ▸ h.pauses }

private theorem Underway.again (h : Underway outcomes settings batch timer next d) {now : Instant}
    (hw : d.emitter.worker = .publishing batch d.calls.length timer next)
    (htaken : outcomes d.calls.length = false)
    (hagain : d.calls.length < settings.retries) :
    Underway outcomes settings batch timer next (d.answer outcomes now) := by
  rw [← h.settings_emitter] at hagain
  have hact := Emitter.refused_of_again hw hagain now
  have hpause : (now + pauseAfter d.calls.length).since now = pauseAfter d.calls.length :=
    congrArg Duration.mk (Nat.add_sub_cancel_left _ _)
  have hsettlement := Emitter.settlement?_of_again hw hagain now
  have hanswer : d.answer outcomes now = { d with
      emitter := { d.emitter with
        worker := .pausing batch (d.calls.length + 1) (now + pauseAfter d.calls.length) timer next }
      calls := d.calls ++ [batch.map SinkRecord.ofEvent]
      pauses := d.pauses ++ [pauseAfter d.calls.length] } := by
    rw [Delivery.answer, hw]
    simp only [Worker.atSink?, htaken, Emitter.act, hact, Worker.pause?, hpause, hsettlement,
      h.unsettled, Option.toList_some]
  have hlength : (d.calls ++ [batch.map SinkRecord.ofEvent]).length = d.calls.length + 1 :=
    List.length_append
  rw [hanswer]
  exact {
    unchanged := h.unchanged
    unsettled := h.unsettled
    within := by
      rw [hlength, ← h.settings_emitter]
      exact hagain
    refused := by
      rw [hlength]
      intro i hi
      rcases Nat.lt_succ_iff_lt_or_eq.mp hi with hi | rfl
      · exact h.refused i hi
      · exact htaken
    waits := by
      rw [hlength]
      exact .inr ⟨_, rfl⟩
    beside := by
      conv_lhs => rw [h.beside]
    busy := h.busy
    calls := by rw [hlength, List.replicate_succ', ← h.calls]
    pauses := by
      rw [hlength, List.range_succ, List.map_append, ← h.pauses]
      rfl }

private theorem Underway.answer (h : Underway outcomes settings batch timer next d)
    (now : Instant) :
    Underway outcomes settings batch timer next (d.answer outcomes now) ∨
      ∃ s, Over outcomes settings batch timer next (d.answer outcomes now) s := by
  rcases h.waits with hw | ⟨wake, hw⟩
  · cases htaken : outcomes d.calls.length with
    | true =>
      exact .inr ⟨_, h.over hw htaken (Emitter.accepted_of_publishing hw)
        (Emitter.settlement?_of_taken hw) (.inl ⟨rfl, rfl⟩)⟩
    | false =>
      by_cases hagain : d.calls.length < settings.retries
      · exact .inl (h.again hw htaken hagain)
      · have hlast : d.calls.length = settings.retries :=
          Nat.le_antisymm h.within (Nat.not_lt.mp hagain)
        have hretries : d.emitter.settings.retries ≤ d.calls.length := by
          rw [h.settings_emitter]
          exact Nat.le_of_eq hlast.symm
        exact .inr ⟨_, h.over hw htaken (Emitter.refused_of_last hw hretries)
          (Emitter.settlement?_of_last hw hretries) (.inr ⟨rfl, hlast, rfl⟩)⟩
  · have hnone : d.emitter.worker.atSink? = none := by
      rw [hw]
      rfl
    rw [Delivery.answer, hnone]
    exact .inl h

/-- A delivery that is under way has no end yet. -/
theorem Underway.not_isSome (h : Underway outcomes settings batch timer next d) :
    ¬d.settlement.isSome = true := by
  rw [h.unsettled]
  decide

private theorem Underway.step (h : Underway outcomes settings batch timer next d)
    (happening : Happening) :
    Underway outcomes settings batch timer next (d.step outcomes happening) ∨
      ∃ s, Over outcomes settings batch timer next (d.step outcomes happening) s := by
  unfold Delivery.step
  rw [if_neg h.not_isSome]
  cases happening with
  | offer e => exact .inl (h.offer e)
  | close =>
    refine .inl { h with beside := ?_ }
    conv_lhs => rw [h.beside]
    rfl
  | turn a ha => exact .inl (h.turn ha)
  | answer now => exact h.answer now

end Delivery

end TenantGateway.Usage
