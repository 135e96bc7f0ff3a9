import TenantGateway.Proofs.Usage.Turns
import Mathlib.Data.List.Induction

/-! The emitter loses, duplicates and reorders nothing. The accepted events are, in order, the settled
batches, the batch of the worker and the buffer; an induction over runs carries this together with
the sizes that the worker's phases allow and with the figures that the emitter reports. -/
namespace TenantGateway.Usage

/-- The sizes of the batches in each phase of the worker, which has not broken off. -/
def Worker.Sized (full : Nat) : Worker → Prop
  | .collecting b _ => b.length < full
  | .publishing b _ _ _ => 1 ≤ b.length ∧ b.length ≤ full
  | .pausing b _ _ _ _ => 1 ≤ b.length ∧ b.length ≤ full
  | .fresh | .finished => True
  | .gone => False

/-- The figures once a batch has left the worker. -/
def Settlement.counted (stats : EmitterStats) : Settlement → EmitterStats
  | .published batch =>
    { stats with published := stats.published + batch.length, batches := stats.batches + 1 }
  | .abandoned batch => { stats with failed := stats.failed + batch.length }

private theorem batch_resume (m : Emitter) (timer : Instant) (next : Continuation) (now : Instant) :
    (m.resume timer next now).batch = [] := by
  cases next <;> rfl

private theorem sized_resume {full : Nat} (hfull : 0 < full) (m : Emitter) (timer : Instant)
    (next : Continuation) (now : Instant) : (m.resume timer next now).Sized full := by
  cases next with
  | resetTimer => exact hfull
  | keepTimer => exact hfull
  | exit => trivial

private theorem not_isPausing_resume (m : Emitter) (timer : Instant) (next : Continuation)
    (now : Instant) : (m.resume timer next now).isPausing = false := by
  cases next <;> rfl

private theorem volume_append (batches more : List (List Event)) :
    volume (batches ++ more) = volume batches + volume more := by
  simp only [volume, List.flatten_append, List.length_append]

private theorem volume_singleton (batch : List Event) : volume [batch] = batch.length := by
  simp only [volume, List.flatten_singleton]

namespace Books

/-- The books agree with the emitter. -/
structure Balanced (settings : EmitterSettings) (b : Books) : Prop where
  unchanged : b.emitter.settings = settings
  /-- Every accepted event is in its place. -/
  sequence : b.accepted =
    (b.settled.map Settlement.batch).flatten ++ b.emitter.worker.batch ++ b.emitter.buffer
  delivered : b.delivered =
    (b.settled.filterMap Settlement.published?).map (·.map SinkRecord.ofEvent)
  sizes : ∀ t ∈ b.settled, 1 ≤ t.batch.length ∧ t.batch.length ≤ settings.fullBatch
  room : b.emitter.buffer.length ≤ settings.room
  enqueued : b.emitter.stats.enqueued = b.accepted.length
  published : b.emitter.stats.published = volume (b.settled.filterMap Settlement.published?)
  failed : b.emitter.stats.failed = volume (b.settled.filterMap Settlement.abandoned?)
  batches : b.emitter.stats.batches = (b.settled.filterMap Settlement.published?).length
  offers : b.emitter.stats.enqueued + b.emitter.stats.dropped = b.offers

/-- Balanced books of a worker whose batches have the sizes of its phase. -/
structure Kept (settings : EmitterSettings) (b : Books) : Prop extends Balanced settings b where
  sized : b.emitter.worker.Sized settings.fullBatch

variable {settings : EmitterSettings} {b : Books}

/-- While the books are kept, the worker has not broken off. -/
theorem Kept.not_gone (h : Kept settings b) : b.emitter.worker ≠ .gone := by
  intro hgone
  have hsized := h.sized
  rw [hgone] at hsized
  exact hsized

/-- The books are kept at the beginning. -/
theorem kept_open (settings : EmitterSettings) : Kept settings (open_ settings) where
  unchanged := rfl
  sequence := rfl
  delivered := rfl
  sizes := by simp [open_]
  room := Nat.zero_le _
  enqueued := rfl
  published := rfl
  failed := rfl
  batches := rfl
  offers := rfl
  sized := trivial

private theorem Kept.record (h : Kept settings b) (e : Event) :
    Kept settings (b.step (.record e)) := by
  rcases b.emitter.record_cases e with ⟨-, hroom, hr⟩ | hr
  · have hs : b.step (.record e) =
        { b with
          emitter := b.emitter.enqueue e
          offers := b.offers + 1
          accepted := b.accepted ++ [e] } := by
      simp only [step, Emitter.act, hr, if_true]
    rw [hs]
    rw [h.unchanged] at hroom
    exact { h with
      sequence := by
        simp only [Emitter.enqueue]
        rw [h.sequence, List.append_assoc]
      room := by
        simp only [Emitter.enqueue, List.length_append, List.length_singleton]
        omega
      enqueued := by
        simp only [Emitter.enqueue, List.length_append, List.length_singleton, h.enqueued]
      offers := by
        have := h.offers
        simp only [Emitter.enqueue]
        omega }
  · have hs : b.step (.record e) = { b with emitter := b.emitter.drop, offers := b.offers + 1 } := by
      simp only [step, Emitter.act, hr, if_false, Bool.false_eq_true]
    rw [hs]
    exact { h with
      offers := by
        have := h.offers
        simp only [Emitter.drop]
        omega }

private theorem Kept.moved (h : Kept settings b) {m : Emitter}
    (hsettings : m.settings = b.emitter.settings) (hstats : m.stats = b.emitter.stats)
    (hevents : m.worker.batch ++ m.buffer = b.emitter.worker.batch ++ b.emitter.buffer)
    (hroom : m.buffer.length ≤ b.emitter.buffer.length)
    (hsized : m.worker.Sized settings.fullBatch) : Kept settings { b with emitter := m } where
  unchanged := hsettings.trans h.unchanged
  sequence := by
    rw [h.sequence, List.append_assoc, List.append_assoc, hevents]
  delivered := h.delivered
  sizes := h.sizes
  room := Nat.le_trans hroom h.room
  enqueued := by rw [hstats, h.enqueued]
  published := by rw [hstats, h.published]
  failed := by rw [hstats, h.failed]
  batches := by rw [hstats, h.batches]
  offers := by rw [hstats, h.offers]
  sized := hsized

private theorem fullBatch_pos (settings : EmitterSettings) : 0 < settings.fullBatch :=
  Nat.lt_of_lt_of_le Nat.zero_lt_one (Nat.le_max_right _ _)

private theorem Kept.turn (h : Kept settings b) (hruns : settings.Runnable) {a : Action}
    (ha : a.isTurn) {m : Emitter} (hturn : Turn b.emitter a m) :
    Kept settings { b with emitter := m } := by
  -- A turn of the worker moves events from the buffer to its batch, or moves none.
  have hsized := h.sized
  cases hturn with
  | idle => exact h
  | broken _ hstuck =>
    rw [h.unchanged] at hstuck
    exact absurd hruns hstuck
  | started hworker =>
    refine h.moved rfl rfl ?_ (Nat.le_refl _) (fullBatch_pos settings)
    rw [hworker]
    rfl
  | received hworker hbuffer hshort =>
    rw [h.unchanged] at hshort
    refine h.moved rfl rfl ?_ ?_ hshort
    · rw [hworker, hbuffer]
      exact List.append_assoc ..
    · rw [hbuffer]
      exact Nat.le_succ _
  | @filled batch timer e rest hworker hbuffer =>
    rw [hworker] at hsized
    have hlength : (batch ++ [e]).length = batch.length + 1 := List.length_append
    refine h.moved rfl rfl ?_ ?_ ⟨by omega, by rw [hlength]; exact hsized⟩
    · rw [hworker, hbuffer]
      exact List.append_assoc ..
    · rw [hbuffer]
      exact Nat.le_succ _
  | finished hworker =>
    refine h.moved rfl rfl ?_ (Nat.le_refl _) trivial
    rw [hworker]
    rfl
  | idleTick hworker =>
    rw [hworker] at hsized
    have hshort : ([] : List Event).length < settings.fullBatch := hsized
    have hevents : [] ++ b.emitter.buffer = b.emitter.worker.batch ++ b.emitter.buffer := by
      rw [hworker]
      rfl
    exact h.moved rfl rfl hevents (Nat.le_refl _) hshort
  | lastBatch hworker _ _ hsome | ticked hworker _ hsome =>
    rw [hworker] at hsized
    refine h.moved rfl rfl ?_ (Nat.le_refl _) ⟨List.length_pos_iff.mpr hsome, Nat.le_of_lt hsized⟩
    rw [hworker]
    rfl
  | retried hworker =>
    rw [hworker] at hsized
    refine h.moved rfl rfl ?_ (Nat.le_refl _) hsized
    rw [hworker]
    rfl
  | published | paused | abandoned => cases ha

private theorem Kept.beginClose (h : Kept settings b) : Kept settings (b.step .beginClose) :=
  h.moved rfl rfl rfl (Nat.le_refl _) h.sized

private theorem Kept.settled (h : Kept settings b) {t : Settlement} {m : Emitter}
    (hbatch : b.emitter.worker.batch = t.batch)
    (hsize : 1 ≤ t.batch.length ∧ t.batch.length ≤ settings.fullBatch)
    (hsettings : m.settings = b.emitter.settings) (hbuffer : m.buffer = b.emitter.buffer)
    (hstats : m.stats = t.counted b.emitter.stats) (hempty : m.worker.batch = [])
    (hsized : m.worker.Sized settings.fullBatch) :
    Kept settings { b with
      emitter := m
      settled := b.settled ++ [t]
      delivered := b.delivered ++ (t.published?.map (·.map SinkRecord.ofEvent)).toList } where
  unchanged := hsettings.trans h.unchanged
  sequence := by
    rw [h.sequence, hbatch, hempty, hbuffer, List.map_append, List.flatten_append, List.append_nil]
    simp only [List.map_cons, List.map_nil, List.flatten_singleton]
  delivered := by
    rw [List.filterMap_append, List.map_append, h.delivered]
    cases t <;> rfl
  sizes := by
    intro t' ht'
    rcases List.mem_append.mp ht' with ht' | ht'
    · exact h.sizes t' ht'
    · rw [List.mem_singleton.mp ht']
      exact hsize
  room := by
    rw [hbuffer]
    exact h.room
  enqueued := by
    rw [hstats]
    cases t <;> exact h.enqueued
  published := by
    rw [hstats, List.filterMap_append, volume_append, ← h.published]
    cases t with
    | published batch => exact congrArg (b.emitter.stats.published + ·) (volume_singleton batch).symm
    | abandoned batch => rfl
  failed := by
    rw [hstats, List.filterMap_append, volume_append, ← h.failed]
    cases t with
    | published batch => rfl
    | abandoned batch => exact congrArg (b.emitter.stats.failed + ·) (volume_singleton batch).symm
  batches := by
    rw [hstats, List.filterMap_append, List.length_append, ← h.batches]
    cases t <;> rfl
  offers := by
    rw [hstats]
    cases t <;> exact h.offers
  sized := hsized

private theorem Kept.taken (h : Kept settings b) (now : Instant) :
    Kept settings (b.step (.answer true now)) := by
  have hsized := h.sized
  cases hw : b.emitter.worker with
  | publishing batch attempt timer next =>
    rw [hw] at hsized
    have hbatch : b.emitter.worker.batch = batch := by
      rw [hw]
      rfl
    have hact : b.emitter.accepted now = { b.emitter with
        worker := b.emitter.resume timer next now
        stats := Settlement.counted b.emitter.stats (.published batch)
        reports := .usageBatch :: b.emitter.report "published" batch.length } := by
      simp only [Emitter.accepted, hw, Settlement.counted]
    have hstep : b.step (.answer true now) = { b with
        emitter := b.emitter.accepted now
        settled := b.settled ++ [.published batch]
        delivered := b.delivered ++ [batch.map SinkRecord.ofEvent] } := by
      simp only [step, Emitter.act, settlement?, Worker.atSink?, hw, if_true, Option.bind_some,
        Option.map_some, Option.toList_some]
    rw [hstep, hact]
    exact h.settled hbatch hsized rfl rfl rfl (batch_resume ..)
      (sized_resume (fullBatch_pos settings) ..)
  | _ =>
    have hstep : b.step (.answer true now) = b := by
      simp only [step, Emitter.act, Emitter.accepted, settlement?, Worker.atSink?, hw, if_true,
        Option.bind_none, Option.map_none, Option.toList_none, List.append_nil]
    rwa [hstep]

private theorem Kept.refused (h : Kept settings b) (now : Instant) :
    Kept settings (b.step (.answer false now)) := by
  have hsized := h.sized
  cases hw : b.emitter.worker with
  | publishing batch attempt timer next =>
    rw [hw] at hsized
    have hbatch : b.emitter.worker.batch = batch := by
      rw [hw]
      rfl
    by_cases hagain : attempt < b.emitter.settings.retries
    · have hact : b.emitter.refused now = { b.emitter with
          worker := .pausing batch (attempt + 1)
            (now + (⟨Emitter.pauseUnit.nanos * (attempt + 1)⟩ : Duration)) timer next } := by
        simp only [Emitter.refused, hw, if_pos hagain]
      have hstep : b.step (.answer false now) = { b with emitter := b.emitter.refused now } := by
        simp only [step, Emitter.act, settlement?, Worker.atSink?, hw, hact, Worker.isPausing,
          if_true, Bool.false_eq_true, if_false, Option.bind_some, Option.toList_none,
          List.append_nil]
      have hevents : batch ++ b.emitter.buffer = b.emitter.worker.batch ++ b.emitter.buffer := by
        rw [hbatch]
      rw [hstep, hact]
      exact h.moved rfl rfl hevents (Nat.le_refl _) hsized
    · have hact : b.emitter.refused now = { b.emitter with
          worker := b.emitter.resume timer next now
          stats := Settlement.counted b.emitter.stats (.abandoned batch)
          reports := b.emitter.report "failed" batch.length } := by
        simp only [Emitter.refused, hw, if_neg hagain, Settlement.counted]
      have hstep : b.step (.answer false now) = { b with
          emitter := b.emitter.refused now
          settled := b.settled ++ [.abandoned batch]
          delivered := b.delivered ++ [] } := by
        simp only [step, Emitter.act, settlement?, Worker.atSink?, hw, hact, not_isPausing_resume,
          Bool.false_eq_true, if_false, Option.bind_some, Option.toList_some, List.append_nil]
      rw [hstep, hact]
      exact h.settled hbatch hsized rfl rfl rfl (batch_resume ..)
        (sized_resume (fullBatch_pos settings) ..)
  | _ =>
    have hstep : b.step (.answer false now) = b := by
      simp only [step, Emitter.act, Emitter.refused, settlement?, Worker.atSink?, hw,
        Bool.false_eq_true, if_false, Option.bind_none, Option.toList_none, List.append_nil]
    rwa [hstep]

/-- A step keeps the books. -/
theorem Kept.step (h : Kept settings b) (hruns : settings.Runnable)
    (a : Action) : Kept settings (b.step a) := by
  cases a with
  | record e => exact h.record e
  | answer taken now =>
    cases taken with
    | true => exact h.taken now
    | false => exact h.refused now
  | beginClose => exact h.beginClose
  | start | receive | tick | retry | drain => exact h.turn hruns rfl (b.emitter.turn_act rfl)

/-- A run keeps the books. -/
theorem kept_run (hruns : settings.Runnable) (actions : List Action) :
    Kept settings (run settings actions) := by
  induction actions using List.reverseRecOn with
  | nil => exact kept_open settings
  | append_singleton actions a ih =>
    rw [run_snoc]
    exact ih.step hruns a

/-- Where the worker can run, the books agree with the emitter after every run: whatever was accepted
has been published once, given up once, or is still on its way, in the order in which it came. -/
theorem balanced_run (settings : EmitterSettings) (hruns : settings.Runnable)
    (actions : List Action) : Balanced settings (run settings actions) :=
  (kept_run hruns actions).toBalanced

/-- A batch of two is refused, published again and taken, while a third event waits. -/
theorem balanced_run_of_retry :
    (⟨"usage", 2, 2, ⟨500⟩, 1⟩ : EmitterSettings).Runnable ∧
      Balanced ⟨"usage", 2, 2, ⟨500⟩, 1⟩ (run ⟨"usage", 2, 2, ⟨500⟩, 1⟩
        [.start ⟨0⟩, .record default, .record default, .receive, .receive, .record default,
          .answer false ⟨1⟩, .retry ⟨100000001⟩, .answer true ⟨100000002⟩]) :=
  ⟨by decide, balanced_run ⟨"usage", 2, 2, ⟨500⟩, 1⟩ (by decide) _⟩

private theorem not_balanced_of_lost (h : b.accepted ≠ []) (hsettled : b.settled = [])
    (hbatch : b.emitter.worker.batch = []) (hbuffer : b.emitter.buffer = []) :
    ¬Balanced settings b := by
  intro hbalanced
  refine h ?_
  rw [hbalanced.sequence, hsettled, hbatch, hbuffer]
  rfl

/-- Without a flush interval, or with batches for which no room can be asked, the worker breaks off at
its first turn, and loses what it was to publish. -/
theorem not_balanced_where_stuck :
    ¬Balanced ⟨"usage", 2, 2, ⟨0⟩, 1⟩
        (run ⟨"usage", 2, 2, ⟨0⟩, 1⟩ [.record default, .start ⟨0⟩]) ∧
      ¬Balanced ⟨"usage", 2, 9223372036854775807, ⟨500⟩, 1⟩
        (run ⟨"usage", 2, 9223372036854775807, ⟨500⟩, 1⟩ [.record default, .start ⟨0⟩]) :=
  ⟨not_balanced_of_lost (by decide) rfl rfl rfl, not_balanced_of_lost (by decide) rfl rfl rfl⟩

end Books

end TenantGateway.Usage
