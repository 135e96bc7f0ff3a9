import TenantGateway.Proofs.Usage.Closing
import TenantGateway.Proofs.Usage.Sessions

/-! The close of a session on a virtual clock is a closing of its emitter, as long as the sink's flush
itself succeeds: the worker goes on until the limit runs out, and then is joined or stopped. -/
namespace TenantGateway

/-- How often the sink has been asked to flush. -/
def Usage.Closing.flushes (c : Usage.Closing) : Nat :=
  c.calls.countP fun
    | .flush => true
    | .publish .. => false

namespace Simulation
open Usage

namespace EmitterSession

/-- A closing has the emitter of the session and what its sink holds; flushes of that sink succeed. -/
structure Tracks (s : EmitterSession) (c : Closing) : Prop where
  books : s.Follows c.books
  flushes : s.sink.keeps → s.sink.memory.flushes = c.flushes
  instant : s.sink.flushDelay = .zero
  sound : s.sink.flushFault = none

/-- Some closing has come to where the session is, with its first close at some phase. -/
def Attained (settings : EmitterSettings) (phase : ClosePhase) (s : EmitterSession) : Prop :=
  ∃ events, s.Tracks (Closing.run settings events) ∧ (Closing.run settings events).phase = phase

variable {settings : EmitterSettings} {phase : ClosePhase} {s t : EmitterSession} {c : Closing}

private theorem Attained.step (h : Attained settings phase s) {phase' : ClosePhase}
    (hnext : ∀ c, s.Tracks c → c.phase = phase →
      ∃ e, t.Tracks (c.step e) ∧ (c.step e).phase = phase') : Attained settings phase' t := by
  obtain ⟨events, htracks, hphase⟩ := h
  obtain ⟨e, htracks', hphase'⟩ := hnext _ htracks hphase
  refine ⟨events ++ [e], ?_⟩
  rw [Closing.run_append]
  exact ⟨htracks', hphase'⟩

private theorem Attained.unseen (h : Attained settings phase s)
    (hnext : ∀ c, s.Tracks c → t.Tracks c) : Attained settings phase t := by
  obtain ⟨events, htracks, hphase⟩ := h
  exact ⟨events, hnext _ htracks, hphase⟩

private theorem flushes_publish (m : MemorySink) (records : List SinkRecord) :
    (m.publish records).2.flushes = m.flushes := by
  rw [MemorySink.publish]
  split <;> rfl

private theorem publish_unflushed (s : SlowSink) (start : Instant) (batch : List Event) :
    (s.publish start batch).2.keeps = s.keeps ∧
      (s.publish start batch).2.memory.flushes = s.memory.flushes ∧
      (s.publish start batch).2.flushDelay = s.flushDelay ∧
      (s.publish start batch).2.flushFault = s.flushFault := by
  rw [SlowSink.publish]
  split
  · exact ⟨rfl, flushes_publish _ _, rfl, rfl⟩
  · exact ⟨rfl, rfl, rfl, rfl⟩

private theorem flushes_answer (c : Closing) (taken : Bool) (now : Instant) :
    (c.step (.answer taken now)).flushes = c.flushes := by
  simp only [Closing.flushes, Closing.step, List.countP_append]
  cases c.books.emitter.worker.atSink? <;> rfl

private theorem Tracks.settle (h : s.Tracks c) (start : Instant) {batch : List Event}
    (hbatch : s.emitter.worker.atSink? = some batch) :
    (s.settle start).Tracks (c.step (.answer (s.sink.publish start batch).1 s.now)) := by
  have hworker : s.emitter.worker.batch = batch := batch_of_atSink? hbatch
  obtain ⟨hkeeps, hflushes, hdelay, hfault⟩ := publish_unflushed s.sink start batch
  have hsink : (s.settle start).sink = (s.sink.publish start batch).2 := by
    rw [← hworker]
    rfl
  exact {
    books := h.books.settle start hbatch
    flushes := by
      rw [hsink, hkeeps, hflushes, flushes_answer]
      exact h.flushes
    instant := by rw [hsink, hdelay, h.instant]
    sound := by rw [hsink, hfault, h.sound] }

private theorem Tracks.later (h : s.Tracks c) (now : Instant)
    (inFlight : Option (Instant × Instant)) : Tracks { s with now, inFlight } c where
  books := ⟨h.books.emitter, h.books.sink⟩
  flushes := h.flushes
  instant := h.instant
  sound := h.sound

private theorem Attained.step? (h : Attained settings phase s) (hstep : s.step? = some t) :
    Attained settings phase t := by
  rcases step?_cases hstep with
    ⟨hsink, hemitter⟩ | ⟨a, ha, hsink, hemitter⟩ | ⟨start, batch, hbatch, rfl⟩
  · refine h.unseen fun c htracks => ?_
    exact {
      books := htracks.books.redirect hemitter (by rw [hsink]; exact fun hkeeps => ⟨hkeeps, rfl⟩)
      flushes := hsink ▸ htracks.flushes
      instant := hsink ▸ htracks.instant
      sound := hsink ▸ htracks.sound }
  · refine h.step fun c htracks hphase => ⟨.turn a ha, ?_, hphase⟩
    exact {
      books := htracks.books.act (by rw [c.books.step_of_isTurn ha]; exact ⟨rfl, rfl⟩) hemitter hsink
      flushes := hsink ▸ htracks.flushes
      instant := hsink ▸ htracks.instant
      sound := hsink ▸ htracks.sound }
  · exact h.step fun c htracks hphase => ⟨_, htracks.settle start hbatch, hphase⟩

private theorem Attained.runBefore (h : Attained settings phase s) (target : Instant) (fuel : Nat) :
    Attained settings phase (runBefore target fuel s) := by
  induction fuel generalizing s with
  | zero => exact h
  | succ fuel ih =>
    rw [EmitterSession.runBefore]
    split
    next t ht => exact ih (h.step? ht)
    next =>
      split
      next due hdue =>
        split
        next => exact ih (h.unseen fun c htracks => htracks.later due _)
        next => exact h
      next => exact h

private theorem Attained.perform (h : Attained settings .notBegun s) {deed : Deed}
    (hdeed : deed ≠ .beginClose) : Attained settings .notBegun (s.perform deed) := by
  cases deed with
  | record e =>
    exact h.step fun c htracks hphase => ⟨.offer e,
      { htracks with books := htracks.books.act (a := .record e) ⟨rfl, rfl⟩ rfl rfl }, hphase⟩
  | poll => exact h.runBefore _ _
  | wait d =>
    rw [EmitterSession.perform, EmitterSession.wait]
    split
    · exact h
    · exact (h.runBefore _ _).unseen fun c htracks => htracks.later _ _
  | beginClose => exact absurd rfl hdeed
  | disturb publishDelay failures =>
    exact h.unseen fun c htracks => { htracks with
      books := htracks.books.redirect rfl fun hkeeps => ⟨hkeeps, rfl⟩ }

private theorem Attained.beginClose (h : Attained settings .notBegun s) (hopen : s.emitter.isOpen)
    (limit : Duration) :
    Attained settings (.draining limit) { s with emitter := s.emitter.beginClose } := by
  refine h.step fun c htracks _ => ⟨.close limit, ?_⟩
  have hclose : c.step (.close limit) =
      { c with books := c.books.step .beginClose, phase := .draining limit } := by
    simp only [Closing.step, Closing.close, ← htracks.books.emitter, hopen, if_true]
  rw [hclose]
  have hbooks : Follows { s with emitter := s.emitter.beginClose } (c.books.step .beginClose) :=
    htracks.books.act ⟨rfl, rfl⟩ rfl rfl
  exact ⟨{ htracks with books := hbooks }, rfl⟩

private theorem Attained.timeOut {limit : Duration} (h : Attained settings (.draining limit) s)
    (hworking : ¬s.emitter.worker.ended) (now : Instant) :
    Attained settings (.returned (.error (.flushTimeout limit)))
      { s with emitter := s.emitter.abort, now, inFlight := none } := by
  refine h.step fun c htracks hphase => ⟨.timedOut, ?_⟩
  rw [htracks.books.emitter] at hworking
  simp only [Closing.step, hphase, if_neg hworking, htracks.books.emitter, and_true]
  exact {
    books := ⟨rfl, htracks.books.sink⟩
    flushes := htracks.flushes
    instant := htracks.instant
    sound := htracks.sound }

private theorem flush_of_sound {k : SlowSink} (hinstant : k.flushDelay = .zero)
    (hsound : k.flushFault = none) (limit : Duration) :
    (k.flush limit).2 = (.ok (), if k.keeps then { k with memory := k.memory.flush } else k) := by
  have htime : ¬limit < k.flushDelay := by
    rw [hinstant]
    exact Nat.not_lt_zero _
  cases hkeeps : k.keeps with
  | true => simp only [SlowSink.flush, hkeeps, htime, hsound, not_true, if_false, if_true]
  | false => simp only [SlowSink.flush, hkeeps, Bool.false_eq_true, not_false_iff, if_true, if_false]

private theorem Attained.flush {limit : Duration} (h : Attained settings (.draining limit) s)
    (hended : s.emitter.worker.ended) (rest : Duration) (now : Instant) :
    Attained settings (.returned (s.sink.flush rest).2.1)
      { s with sink := (s.sink.flush rest).2.2, now } := by
  have hsink : (s.sink.flush rest).2 =
      (.ok (), if s.sink.keeps then { s.sink with memory := s.sink.memory.flush } else s.sink) := by
    obtain ⟨events, htracks, -⟩ := h
    exact flush_of_sound htracks.instant htracks.sound rest
  have hjoined : Attained settings .flushing
      { s with
        sink := if s.sink.keeps then { s.sink with memory := s.sink.memory.flush } else s.sink
        now } := by
    refine h.step fun c htracks hphase => ⟨.joined, ?_⟩
    rw [htracks.books.emitter] at hended
    have hstep : c.step .joined = { c with phase := .flushing, calls := c.calls ++ [.flush] } := by
      simp only [Closing.step, hphase, hended, if_true]
    have hflushes : (c.step .joined).flushes = c.flushes + 1 := by
      rw [hstep, Closing.flushes, List.countP_append]
      rfl
    refine ⟨?_, by rw [hstep]⟩
    split
    next hkeeps =>
      exact {
        books := by
          rw [hstep]
          exact htracks.books.redirect rfl fun _ => ⟨hkeeps, rfl⟩
        flushes := fun _ => (congrArg (· + 1) (htracks.flushes hkeeps)).trans hflushes.symm
        instant := htracks.instant
        sound := htracks.sound }
    next hkeeps =>
      exact {
        books := by
          rw [hstep]
          exact htracks.books.redirect rfl fun h => ⟨h, rfl⟩
        flushes := fun h => absurd h hkeeps
        instant := htracks.instant
        sound := htracks.sound }
  rw [hsink]
  exact hjoined.step fun c htracks hphase => ⟨.flushed, by
    simp only [Closing.step, hphase, and_true]
    exact { htracks with }⟩

private theorem Attained.finishClose {limit : Duration} (h : Attained settings (.draining limit) s)
    (began : Instant) :
    Attained settings (.returned (s.finishClose began limit).1) (s.finishClose began limit).2 := by
  have hran : Attained settings (.draining limit)
      (if limit.nanos = 0 then s
        else EmitterSession.runBefore (began + limit) (s.fuel (began + limit)) s) := by
    split
    · exact h
    · exact h.runBefore _ _
  simp only [EmitterSession.finishClose]
  generalize (if limit.nanos = 0 then s
    else EmitterSession.runBefore (began + limit) (s.fuel (began + limit)) s) = u at hran ⊢
  by_cases hended : u.emitter.worker.ended
  · rw [if_neg fun h => h hended]
    exact hran.flush hended _ _
  · rw [if_pos hended]
    exact hran.timeOut hended _

private theorem attained_of_deeds (settings : EmitterSettings) (keeps : Bool) (deeds : List Deed)
    (hdeeds : .beginClose ∉ deeds) :
    Attained settings .notBegun (deeds.foldl perform (ofSettings settings keeps)) := by
  induction deeds using List.reverseRecOn with
  | nil => exact ⟨[], ⟨⟨rfl, fun _ => rfl⟩, fun _ => rfl, rfl, rfl⟩, rfl⟩
  | append_singleton deeds deed ih =>
    rw [List.mem_append, List.mem_singleton, not_or] at hdeeds
    rw [List.foldl_append]
    exact (ih hdeeds.1).perform fun h => hdeeds.2 h.symm

/-- Whatever has been done with a session before, its close is a closing of its emitter, and returns
what that returns. -/
theorem attained_close (settings : EmitterSettings) (keeps : Bool) (deeds : List Deed)
    (hdeeds : .beginClose ∉ deeds) (limit : Duration) :
    let s := deeds.foldl perform (ofSettings settings keeps)
    Attained settings (.returned (s.close limit).1) (s.close limit).2 := by
  intro s
  have h : Attained settings .notBegun s := attained_of_deeds settings keeps deeds hdeeds
  have hopen : s.emitter.isOpen := by
    obtain ⟨events, htracks, hphase⟩ := h
    rw [htracks.books.emitter]
    exact Closing.isOpen_of_notBegun hphase
  simp only [EmitterSession.close, hopen, not_true, if_false]
  exact (h.beginClose hopen limit).finishClose s.now

/-- A session that closes well has let go of every event, and has had its sink flush once. -/
theorem settled_of_close (settings : EmitterSettings) (hruns : settings.Runnable)
    (keeps : Bool) (deeds : List Deed) (hdeeds : .beginClose ∉ deeds) (limit : Duration) :
    let s := deeds.foldl perform (ofSettings settings keeps)
    (s.close limit).1 = .ok () →
      (s.close limit).2.emitter.buffer = [] ∧ (s.close limit).2.emitter.worker.batch = [] ∧
        (s.close limit).2.emitter.stats.enqueued =
          (s.close limit).2.emitter.stats.published + (s.close limit).2.emitter.stats.failed ∧
        ((s.close limit).2.sink.keeps → (s.close limit).2.sink.memory.flushes = 1) := by
  intro s hok
  obtain ⟨events, htracks, hphase⟩ := attained_close settings keeps deeds hdeeds limit
  rw [hok] at hphase
  obtain ⟨hbuffer, hbatch, hcount, attempts, hcalls, honce⟩ :=
    (Closing.standing_run hruns events).complete_of_returned
      (Closing.vacated_run events) hphase
  rw [htracks.books.emitter]
  refine ⟨hbuffer, hbatch, hcount, fun hkeeps => ?_⟩
  rw [htracks.flushes hkeeps, Usage.Closing.flushes, hcalls, List.countP_append,
    List.countP_eq_zero.mpr]
  · rfl
  · intro call hcall hflush
    cases call with
    | flush => exact honce hcall
    | publish batch taken => cases hflush

end EmitterSession

end Simulation

end TenantGateway
