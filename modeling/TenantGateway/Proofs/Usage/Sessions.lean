import TenantGateway.Proofs.Usage.Conservation
import TenantGateway.Proofs.Usage.Offers

/-! A session on a virtual clock is a run of the emitter, and its sink in memory holds the batches that
the books have as delivered. So what a session has accepted is in the sink, given up, or on its way. -/
namespace TenantGateway.Simulation
open Usage

private theorem keeps_publish (s : SlowSink) (start : Instant) (batch : List Event) :
    (s.publish start batch).2.keeps = s.keeps := by
  rw [SlowSink.publish]
  split <;> rfl

private theorem batches_publish {s : SlowSink} (h : s.keeps) (start : Instant)
    (batch : List Event) :
    (s.publish start batch).2.memory.batches =
      if (s.publish start batch).1 then s.memory.batches ++ [batch.map SinkRecord.ofEvent]
      else s.memory.batches := by
  simp only [SlowSink.publish, if_pos h, MemorySink.publish]
  split <;> rfl

namespace EmitterSession

/-- The books are those of the session's emitter and of its sink. -/
structure Follows (s : EmitterSession) (b : Books) : Prop where
  emitter : s.emitter = b.emitter
  sink : s.sink.keeps → s.sink.memory.batches = b.delivered

variable {settings : EmitterSettings} {s t : EmitterSession} {b : Books}

/-- Any change of the session but to its emitter and to what its sink holds. -/
theorem Follows.redirect (h : s.Follows b) (hemitter : t.emitter = s.emitter)
    (hsink : t.sink.keeps → s.sink.keeps ∧ t.sink.memory.batches = s.sink.memory.batches) :
    t.Follows b where
  emitter := hemitter.trans h.emitter
  sink := by
    intro hkeeps
    obtain ⟨hkept, hbatches⟩ := hsink hkeeps
    exact hbatches.trans (h.sink hkept)

/-- An action of which the sink hears nothing. -/
theorem Follows.act (h : s.Follows b) {a : Action}
    (hquiet : (b.step a).emitter = b.emitter.act a ∧ (b.step a).delivered = b.delivered)
    (hemitter : t.emitter = s.emitter.act a) (hsink : t.sink = s.sink) : t.Follows (b.step a) where
  emitter := by rw [hquiet.1, hemitter, h.emitter]
  sink := by
    rw [hquiet.2, hsink]
    exact h.sink

/-- The batch at the sink is the one that the worker holds. -/
theorem batch_of_atSink? {w : Worker} {batch : List Event} (h : w.atSink? = some batch) :
    w.batch = batch := by
  cases w with
  | publishing batch' attempt timer next => exact Option.some.inj h
  | _ => cases h

/-- The sink keeps a batch that it takes, as the books do. -/
theorem Follows.settle (h : s.Follows b) (start : Instant) {batch : List Event}
    (hbatch : s.emitter.worker.atSink? = some batch) :
    (s.settle start).Follows (b.step (.answer (s.sink.publish start batch).1 s.now)) where
  emitter := by
    rw [emitter_settle, batch_of_atSink? hbatch, Books.step, ← h.emitter]
  sink := by
    have hsink : (s.settle start).sink = (s.sink.publish start batch).2 := by
      rw [← batch_of_atSink? hbatch]
      rfl
    rw [hsink, keeps_publish]
    intro hkeeps
    rw [batches_publish hkeeps, h.sink hkeeps, Books.step, ← h.emitter, hbatch]
    rfl

/-- Some run of the emitter has come to where the session is. -/
def Reached (settings : EmitterSettings) (s : EmitterSession) : Prop :=
  ∃ actions, s.Follows (Books.run settings actions)

private theorem Reached.step (h : Reached settings s) (a : Action)
    (hnext : ∀ b, s.Follows b → t.Follows (b.step a)) : Reached settings t := by
  obtain ⟨actions, hfollows⟩ := h
  refine ⟨actions ++ [a], ?_⟩
  rw [Books.run_snoc]
  exact hnext _ hfollows

private theorem Reached.redirect (h : Reached settings s) (hemitter : t.emitter = s.emitter)
    (hsink : t.sink.keeps → s.sink.keeps ∧ t.sink.memory.batches = s.sink.memory.batches) :
    Reached settings t := by
  obtain ⟨actions, hfollows⟩ := h
  exact ⟨actions, hfollows.redirect hemitter hsink⟩

private theorem Reached.step? (h : Reached settings s) (hstep : s.step? = some t) :
    Reached settings t := by
  rcases step?_cases hstep with
    ⟨hsink, hemitter⟩ | ⟨a, ha, hsink, hemitter⟩ | ⟨start, batch, hbatch, rfl⟩
  · refine h.redirect hemitter ?_
    rw [hsink]
    exact fun hkeeps => ⟨hkeeps, rfl⟩
  · refine h.step a fun b hfollows => hfollows.act ?_ hemitter hsink
    rw [b.step_of_isTurn ha]
    exact ⟨rfl, rfl⟩
  · exact h.step _ fun b hfollows => hfollows.settle start hbatch

private theorem Reached.runBefore (h : Reached settings s) (target : Instant) (fuel : Nat) :
    Reached settings (runBefore target fuel s) := by
  induction fuel generalizing s with
  | zero => exact h
  | succ fuel ih =>
    rw [EmitterSession.runBefore]
    split
    next t ht => exact ih (h.step? ht)
    next =>
      split
      next due hdue =>
        split
        next =>
          exact ih (h.redirect rfl fun hkeeps => ⟨hkeeps, rfl⟩)
        next => exact h
      next => exact h

private theorem Reached.wait (h : Reached settings s) (d : Duration) :
    Reached settings (s.wait d) := by
  rw [EmitterSession.wait]
  split
  · exact h
  · exact (h.runBefore _ _).redirect rfl fun hkeeps => ⟨hkeeps, rfl⟩

private theorem Reached.record (h : Reached settings s) (e : Event) :
    Reached settings (s.record e).2 :=
  h.step (.record e) fun _ hfollows => hfollows.act ⟨rfl, rfl⟩ rfl rfl

/-- What can be done with a session up to its close, and with the sink behind it. -/
inductive Deed where
  | record (e : Event)
  | poll
  | wait (d : Duration)
  | beginClose
  /-- The sink gets slower or faster, or is to fail for some time. -/
  | disturb (publishDelay : Duration) (failures : Nat)

def perform (s : EmitterSession) : Deed → EmitterSession
  | .record e => (s.record e).2
  | .poll => s.poll
  | .wait d => s.wait d
  | .beginClose => { s with emitter := s.emitter.beginClose }
  | .disturb publishDelay failures =>
    { s with sink := { s.sink with
        publishDelay, memory := { s.sink.memory with failuresLeft := failures } } }

private theorem Reached.perform (h : Reached settings s) (deed : Deed) :
    Reached settings (s.perform deed) := by
  cases deed with
  | record e => exact h.record e
  | poll => exact h.runBefore _ _
  | wait d => exact h.wait d
  | beginClose => exact h.step .beginClose fun _ hfollows => hfollows.act ⟨rfl, rfl⟩ rfl rfl
  | disturb publishDelay failures => exact h.redirect rfl fun hkeeps => ⟨hkeeps, rfl⟩

private theorem reached_of_deeds (settings : EmitterSettings) (keeps : Bool) (deeds : List Deed) :
    Reached settings (deeds.foldl perform (ofSettings settings keeps)) := by
  induction deeds using List.reverseRecOn with
  | nil => exact ⟨[], rfl, fun _ => rfl⟩
  | append_singleton deeds deed ih =>
    rw [List.foldl_append]
    exact ih.perform deed

/-- Whatever has been done with a session, there are balanced books of its emitter, and a sink in memory
holds what they have as delivered. -/
theorem balanced_of_deeds (settings : EmitterSettings) (hruns : settings.Runnable)
    (keeps : Bool) (deeds : List Deed) :
    ∃ b : Books, (deeds.foldl perform (ofSettings settings keeps)).Follows b ∧
      b.Balanced settings := by
  obtain ⟨actions, hfollows⟩ := reached_of_deeds settings keeps deeds
  exact ⟨_, hfollows, (Books.kept_run hruns actions).toBalanced⟩

end EmitterSession

end TenantGateway.Simulation
