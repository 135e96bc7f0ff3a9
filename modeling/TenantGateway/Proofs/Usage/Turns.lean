import TenantGateway.Proofs.Usage.Runs

/-! What becomes of an offer, and what the worker of an emitter does in one step, all in one place:
which phase it is found in, what it leaves, and what else changes. An invariant of the worker is checked against these cases. -/
namespace TenantGateway.Usage

/-- A step of the worker, or an answer of its sink. -/
def Action.isWork : Action → Bool
  | .record _ | .beginClose => false
  | _ => true

/-- A turn is work. -/
theorem Action.isWork_of_isTurn {a : Action} (h : a.isTurn) : a.isWork := by
  cases a <;> first | rfl | cases h

/-- What becomes of an emitter in a step of its worker. -/
inductive Turn (m : Emitter) : Action → Emitter → Prop where
  /-- The worker does not wait for this. -/
  | idle (a : Action) : Turn m a m
  | broken {now : Instant} (worker : m.worker = .fresh) (stuck : ¬m.settings.Runnable) :
      Turn m (.start now) { m with worker := .gone, buffer := [] }
  | started {now : Instant} (worker : m.worker = .fresh) (runs : m.settings.Runnable) :
      Turn m (.start now) { m with worker := .collecting [] (now + m.settings.interval) }
  | received {batch : List Event} {timer : Instant} {e : Event} {rest : List Event}
      (worker : m.worker = .collecting batch timer) (buffer : m.buffer = e :: rest)
      (short : (batch ++ [e]).length < m.settings.fullBatch) :
      Turn m .receive { m with buffer := rest, worker := .collecting (batch ++ [e]) timer }
  | filled {batch : List Event} {timer : Instant} {e : Event} {rest : List Event}
      (worker : m.worker = .collecting batch timer) (buffer : m.buffer = e :: rest)
      (full : m.settings.fullBatch ≤ (batch ++ [e]).length) :
      Turn m .receive
        { m with buffer := rest, worker := .publishing (batch ++ [e]) 0 timer .resetTimer }
  | finished {timer : Instant} (worker : m.worker = .collecting [] timer) (buffer : m.buffer = [])
      (closed : m.isOpen = false) : Turn m .drain { m with worker := .finished }
  | lastBatch {batch : List Event} {timer : Instant} (worker : m.worker = .collecting batch timer)
      (buffer : m.buffer = []) (closed : m.isOpen = false) (some : batch ≠ []) :
      Turn m .drain { m with worker := .publishing batch 0 timer .exit }
  | idleTick {timer now : Instant} (worker : m.worker = .collecting [] timer) (due : timer ≤ now) :
      Turn m (.tick now)
        { m with worker := .collecting [] (Instant.nextTick m.settings.interval timer now) }
  | ticked {batch : List Event} {timer now : Instant} (worker : m.worker = .collecting batch timer)
      (due : timer ≤ now) (some : batch ≠ []) :
      Turn m (.tick now)
        { m with
          worker :=
            .publishing batch 0 (Instant.nextTick m.settings.interval timer now) .keepTimer }
  | published {batch : List Event} {attempt : Nat} {timer now : Instant} {next : Continuation}
      (worker : m.worker = .publishing batch attempt timer next) :
      Turn m (.answer true now)
        { m with
          worker := m.resume timer next now
          stats := { m.stats with
            published := m.stats.published + batch.length, batches := m.stats.batches + 1 }
          reports := .usageBatch :: m.report "published" batch.length }
  | paused {batch : List Event} {attempt : Nat} {timer now : Instant} {next : Continuation}
      (worker : m.worker = .publishing batch attempt timer next)
      (again : attempt < m.settings.retries) :
      Turn m (.answer false now)
        { m with
          worker := .pausing batch (attempt + 1)
            (now + (⟨Emitter.pauseUnit.nanos * (attempt + 1)⟩ : Duration)) timer next }
  | abandoned {batch : List Event} {attempt : Nat} {timer now : Instant} {next : Continuation}
      (worker : m.worker = .publishing batch attempt timer next)
      (last : m.settings.retries ≤ attempt) :
      Turn m (.answer false now)
        { m with
          worker := m.resume timer next now
          stats := { m.stats with failed := m.stats.failed + batch.length }
          reports := m.report "failed" batch.length }
  | retried {batch : List Event} {attempt : Nat} {wake timer now : Instant} {next : Continuation}
      (worker : m.worker = .pausing batch attempt wake timer next) (due : wake ≤ now) :
      Turn m (.retry now) { m with worker := .publishing batch attempt timer next }

namespace Emitter

/-- An offered event gets into an open buffer with room, or is dropped. -/
theorem record_cases (m : Emitter) (e : Event) :
    (m.isOpen = true ∧ m.buffer.length < m.settings.room ∧ m.record e = (true, m.enqueue e)) ∨
      m.record e = (false, m.drop) := by
  rw [record]
  split
  next hin => exact .inl ⟨hin.1, hin.2.2, rfl⟩
  next => exact .inr rfl

private theorem turn_start (m : Emitter) (now : Instant) : Turn m (.start now) (m.start now) := by
  rw [start]
  split
  next hworker =>
    split
    next hruns => exact .started hworker hruns
    next hstuck => exact .broken hworker hstuck
  · exact .idle _

private theorem turn_receive (m : Emitter) : Turn m .receive m.receive := by
  rw [receive]
  split
  next batch timer e rest hworker hbuffer =>
    simp only
    split
    next hfull => exact .filled hworker hbuffer hfull
    next hshort => exact .received hworker hbuffer (Nat.lt_of_not_le hshort)
  · exact .idle _

private theorem turn_drain (m : Emitter) : Turn m .drain m.drain := by
  rw [drain]
  split
  next batch timer hworker hbuffer =>
    split
    · exact .idle _
    next hopen =>
      have hclosed : m.isOpen = false := Bool.eq_false_iff.mpr hopen
      split
      next hempty =>
        rw [List.isEmpty_iff] at hempty
        subst hempty
        exact .finished hworker hbuffer hclosed
      next hsome =>
        rw [List.isEmpty_iff] at hsome
        exact .lastBatch hworker hbuffer hclosed hsome
  · exact .idle _

private theorem turn_tick (m : Emitter) (now : Instant) : Turn m (.tick now) (m.tick now) := by
  rw [tick]
  split
  next batch timer hworker =>
    split
    next hdue =>
      simp only
      split
      next hempty =>
        rw [List.isEmpty_iff] at hempty
        subst hempty
        exact .idleTick hworker hdue
      next hsome =>
        rw [List.isEmpty_iff] at hsome
        exact .ticked hworker hdue hsome
    · exact .idle _
  · exact .idle _

private theorem turn_accepted (m : Emitter) (now : Instant) :
    Turn m (.answer true now) (m.accepted now) := by
  rw [accepted]
  split
  next hworker => exact .published hworker
  · exact .idle _

private theorem turn_refused (m : Emitter) (now : Instant) :
    Turn m (.answer false now) (m.refused now) := by
  rw [refused]
  split
  next hworker =>
    split
    next hagain => exact .paused hworker hagain
    next hlast => exact .abandoned hworker (Nat.le_of_not_lt hlast)
  · exact .idle _

private theorem turn_retry (m : Emitter) (now : Instant) : Turn m (.retry now) (m.retry now) := by
  rw [retry]
  split
  next hworker =>
    split
    next hdue => exact .retried hworker hdue
    · exact .idle _
  · exact .idle _

/-- Work is one of the turns. -/
theorem turn_act (m : Emitter) {a : Action} (h : a.isWork) : Turn m a (m.act a) := by
  cases a with
  | record e => cases h
  | beginClose => cases h
  | start now => exact m.turn_start now
  | receive => exact m.turn_receive
  | tick now => exact m.turn_tick now
  | answer taken now =>
    cases taken with
    | true => exact m.turn_accepted now
    | false => exact m.turn_refused now
  | retry now => exact m.turn_retry now
  | drain => exact m.turn_drain

end Emitter

namespace Turn

variable {m n : Emitter} {a : Action}

/-- No turn opens the emitter or shuts it. -/
theorem isOpen_eq (h : Turn m a n) : n.isOpen = m.isOpen := by
  cases h <;> rfl

/-- A worker that has ended does nothing more. -/
theorem eq_of_ended (h : Turn m a n) (hended : m.worker.ended) : n = m := by
  cases h with
  | idle => rfl
  | broken hworker _ | started hworker _ | received hworker _ _ | filled hworker _ _
  | finished hworker _ _ | lastBatch hworker _ _ _ | idleTick hworker _ | ticked hworker _ _
  | published hworker | paused hworker _ | abandoned hworker _ | retried hworker _ =>
    rw [hworker] at hended
    cases hended

end Turn

end TenantGateway.Usage
