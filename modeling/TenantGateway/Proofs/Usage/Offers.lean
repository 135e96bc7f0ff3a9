import TenantGateway.Simulation.Emitter
import TenantGateway.Proofs.Usage.Turns

/-! Only an offer of an event counts as one: whatever the worker does in any span of time, the number
of events that the emitter has accepted or dropped stays the same. -/
namespace TenantGateway

namespace Usage.Emitter

/-- The events that have been accepted, and those that have been dropped. -/
def offered (m : Emitter) : Nat × Nat := (m.stats.enqueued, m.stats.dropped)

/-- How often an event has been offered. -/
def offers (m : Emitter) : Nat := m.stats.enqueued + m.stats.dropped

/-- Emitters with one record of offers have been offered as many events. -/
theorem offers_eq_of_offered {m n : Emitter} (h : m.offered = n.offered) : m.offers = n.offers := by
  obtain ⟨henqueued, hdropped⟩ := Prod.mk.inj h
  rw [offers, offers, henqueued, hdropped]

/-- An event that is offered counts as one offer, taken or not. -/
theorem offers_record (m : Emitter) (e : Event) : (m.record e).2.offers = m.offers + 1 := by
  rw [record]
  split
  · exact Nat.add_right_comm _ _ _
  · rfl

private theorem offered_of_turn {m n : Emitter} {a : Action} (h : Turn m a n) :
    n.offered = m.offered := by
  cases h <;> rfl

/-- The worker's steps and the closing of the buffer offer nothing. -/
theorem offered_act (m : Emitter) {a : Action} (h : ∀ e, a ≠ .record e) :
    (m.act a).offered = m.offered := by
  cases a with
  | record e => exact absurd rfl (h e)
  | beginClose => rfl
  | start | receive | tick | answer | retry | drain => exact offered_of_turn (m.turn_act rfl)

end Usage.Emitter

namespace Simulation.EmitterSession
open Usage

/-- A turn of the worker lets a publication begin, is an action of the emitter, or ends a publication. -/
theorem step?_cases {s t : EmitterSession} (h : s.step? = some t) :
    (t.sink = s.sink ∧ t.emitter = s.emitter) ∨
      (∃ a : Action, a.isTurn ∧ t.sink = s.sink ∧ t.emitter = s.emitter.act a) ∨
      ∃ start batch, s.emitter.worker.atSink? = some batch ∧ t = s.settle start := by
  cases hw : s.emitter.worker with
  | fresh =>
    simp only [step?, hw, Option.some.injEq] at h
    subst h
    exact .inr (.inl ⟨.start s.now, rfl, rfl, rfl⟩)
  | collecting batch timer =>
    simp only [step?, hw] at h
    split at h
    · cases h
      exact .inr (.inl ⟨.receive, rfl, rfl, rfl⟩)
    · split at h
      · cases h
        exact .inr (.inl ⟨.drain, rfl, rfl, rfl⟩)
      · split at h
        · cases h
          exact .inr (.inl ⟨.tick s.now, rfl, rfl, rfl⟩)
        · cases h
  | publishing batch attempt timer next =>
    simp only [step?, hw] at h
    split at h
    · cases h
      exact .inl ⟨rfl, rfl⟩
    · split at h
      · exact .inr (.inr ⟨_, batch, rfl, (Option.some.inj h).symm⟩)
      · cases h
  | pausing batch attempt wake timer next =>
    simp only [step?, hw] at h
    split at h
    · cases h
      exact .inr (.inl ⟨.retry s.now, rfl, rfl, rfl⟩)
    · cases h
  | finished =>
    simp only [step?, hw] at h
    cases h
  | gone =>
    simp only [step?, hw] at h
    cases h

/-- The sink's answer is the worker's next action. -/
theorem emitter_settle (s : EmitterSession) (start : Instant) :
    (s.settle start).emitter =
      s.emitter.act (.answer (s.sink.publish start s.emitter.worker.batch).1 s.now) := by
  simp only [settle]
  cases (s.sink.publish start s.emitter.worker.batch).1 <;> rfl

private theorem offered_step? {s t : EmitterSession} (h : s.step? = some t) :
    t.emitter.offered = s.emitter.offered := by
  rcases step?_cases h with ⟨-, ht⟩ | ⟨a, ha, -, ht⟩ | ⟨start, batch, -, rfl⟩
  · rw [ht]
  · rw [ht, s.emitter.offered_act]
    rintro e rfl
    cases ha
  · rw [emitter_settle, s.emitter.offered_act]
    intro e he
    cases he

private theorem offered_runBefore (target : Instant) (fuel : Nat) (s : EmitterSession) :
    (runBefore target fuel s).emitter.offered = s.emitter.offered := by
  induction fuel generalizing s with
  | zero => rfl
  | succ fuel ih =>
    rw [runBefore]
    split
    next t ht => rw [ih, offered_step? ht]
    next =>
      split
      · split
        · exact ih _
        · rfl
      · rfl

/-- What the worker does at once offers nothing. -/
theorem offered_poll (s : EmitterSession) : s.poll.emitter.offered = s.emitter.offered :=
  offered_runBefore _ _ _

/-- Nor does what it does while time passes. -/
theorem offered_wait (s : EmitterSession) (d : Duration) :
    (s.wait d).emitter.offered = s.emitter.offered := by
  rw [wait]
  split
  · rfl
  · exact offered_runBefore _ _ _

end Simulation.EmitterSession

end TenantGateway
