import Mathlib.Data.List.Induction
import TenantGateway.Service.Connections

/-! Tracked connections, step by step. Connections are accepted and end, a shutdown begins, and any
number of calls wait for the connections to end, in any order. The end of a connection is two steps,
and so is each look of a call that waits; whatever falls between them, the count is exact and no end
is slept through. -/
namespace TenantGateway

/-- How far the end of a connection has come. -/
inductive Guard where
  | held
  /-- The connection is off the count, and this has not been announced. -/
  | discounted
  | dropped
  deriving DecidableEq, Repr

inductive WaitPhase where
  | looking
  /-- It has found connections open, and sleeps until something is announced. -/
  | parked
  /-- It has found no connection open. -/
  | idle
  /-- Its deadline has come, with a number of connections open. -/
  | cutOff (left : Nat)
  deriving DecidableEq, Repr

inductive WaitTurn where
  | look
  | wake
  /-- The deadline comes. -/
  | expire
  deriving DecidableEq, Repr

/-- A call that waits until no connection is open, or its deadline comes. -/
structure Wait where
  waiter : IdleWaiter
  phase : WaitPhase
  deriving DecidableEq, Repr

namespace Wait

def begin (t : ConnectionTracker) : Wait := ⟨.subscribe t, .looking⟩

/-- The call sees the count when it looks and at its deadline; it sleeps until it hears of an end. -/
def turn (w : Wait) (t : ConnectionTracker) (turn : WaitTurn) : Wait :=
  match w.phase, turn with
  | .looking, .look => { w with phase := if w.waiter.isDone t then .idle else .parked }
  | .parked, .wake => if w.waiter.isAwake t then ⟨w.waiter.look t, .looking⟩ else w
  | .parked, .expire => { w with phase := .cutOff t.active }
  | _, _ => w

/-- The number that it gives back, once it has ended. -/
def result? (w : Wait) : Option Nat :=
  match w.phase with
  | .looking | .parked => none
  | .idle => some 0
  | .cutOff left => some left

variable {w : Wait} {t : ConnectionTracker} {n : Nat}

private theorem look_of_idle (hphase : w.phase = .looking) (h : t.active = 0) :
    w.turn t .look = { w with phase := .idle } := by
  simp [turn, hphase, IdleWaiter.isDone, h]

/-- A call that finds a connection open goes to sleep. -/
theorem look_of_open (hphase : w.phase = .looking) (h : t.active ≠ 0) :
    w.turn t .look = { w with phase := .parked } := by
  simp [turn, hphase, IdleWaiter.isDone, h]

private theorem turn_of_result? (h : w.result? = some n) (t : ConnectionTracker) (turn : WaitTurn) :
    w.turn t turn = w := by
  obtain ⟨waiter, phase⟩ := w
  cases phase with
  | looking | parked => cases h
  | idle | cutOff => cases turn <;> rfl

/-- A call ends with a look that finds nothing open, or at its deadline. -/
theorem result?_turn (h : w.result? = none) {turn : WaitTurn}
    (hresult : (w.turn t turn).result? = some n) :
    (turn = .look ∧ w.phase = .looking ∧ t.active = 0 ∧ n = 0) ∨
      turn = .expire ∧ w.phase = .parked ∧ n = t.active := by
  obtain ⟨waiter, phase⟩ := w
  cases phase with
  | idle | cutOff => cases h
  | looking =>
    cases turn with
    | wake | expire => cases hresult
    | look =>
      by_cases hactive : t.active = 0
      · rw [look_of_idle rfl hactive] at hresult
        cases hresult
        exact .inl ⟨rfl, rfl, hactive, rfl⟩
      · rw [look_of_open rfl hactive] at hresult
        cases hresult
  | parked =>
    cases turn with
    | look => cases hresult
    | expire =>
      cases hresult
      exact .inr ⟨rfl, rfl, rfl⟩
    | wake =>
      simp only [Wait.turn] at hresult
      split at hresult
      · cases hresult
      · cases hresult

end Wait

/-- A tracker with the guards of the connections that it has counted and the calls that wait on it, in
the order in which they have come. -/
structure Tracking where
  tracker : ConnectionTracker
  guards : List Guard
  waits : List Wait
  deriving DecidableEq, Repr

namespace Tracking

/-- Guards and calls are told by their places. What cannot be changes nothing. Accepting is one step,
as one task both accepts connections and begins the shutdown. -/
inductive Event where
  | accept
  | discount (guard : Nat)
  | announce (guard : Nat)
  | beginShutdown
  | subscribe
  | turn (turn : WaitTurn) (wait : Nat)
  deriving DecidableEq, Repr

def step (s : Tracking) : Event → Tracking
  | .accept =>
    match s.tracker.accept? with
    | some tracker => { s with tracker, guards := s.guards ++ [.held] }
    | none => s
  | .discount guard =>
    if s.guards[guard]? = some .held then
      { s with tracker := s.tracker.discount, guards := s.guards.set guard .discounted }
    else s
  | .announce guard =>
    if s.guards[guard]? = some .discounted then
      { s with tracker := s.tracker.announce, guards := s.guards.set guard .dropped }
    else s
  | .beginShutdown => { s with tracker := s.tracker.beginShutdown }
  | .subscribe => { s with waits := s.waits ++ [.begin s.tracker] }
  | .turn turn wait => { s with waits := s.waits.modify wait (·.turn s.tracker turn) }

def empty : Tracking := ⟨.empty, [], []⟩

def run (events : List Event) : Tracking := events.foldl step empty

theorem run_append (events more : List Event) :
    run (events ++ more) = more.foldl step (run events) := List.foldl_append

theorem run_concat (events : List Event) (e : Event) :
    run (events ++ [e]) = (run events).step e := run_append events [e]

/-- All that an event can lead to. -/
inductive Move (s : Tracking) : Event → Tracking → Prop where
  | idle (e : Event) : Move s e s
  | accepted (accepting : s.tracker.shuttingDown = false) :
      Move s .accept
        { s with
          tracker := { s.tracker with active := s.tracker.active + 1 }
          guards := s.guards ++ [.held] }
  | discounted {guard : Nat} (held : s.guards[guard]? = some .held) :
      Move s (.discount guard)
        { s with tracker := s.tracker.discount, guards := s.guards.set guard .discounted }
  | announced {guard : Nat} (discounted : s.guards[guard]? = some .discounted) :
      Move s (.announce guard)
        { s with tracker := s.tracker.announce, guards := s.guards.set guard .dropped }
  | shutDown : Move s .beginShutdown { s with tracker := s.tracker.beginShutdown }
  | subscribed : Move s .subscribe { s with waits := s.waits ++ [.begin s.tracker] }
  | turned (turn : WaitTurn) (wait : Nat) :
      Move s (.turn turn wait) { s with waits := s.waits.modify wait (·.turn s.tracker turn) }

/-- Every event makes one of the moves. -/
theorem move_step (s : Tracking) (e : Event) : Move s e (s.step e) := by
  cases e with
  | accept =>
    rw [step, ConnectionTracker.accept?]
    split
    next tracker haccept =>
      split at haccept
      · cases haccept
      next haccepting =>
        cases haccept
        exact .accepted (Bool.eq_false_iff.mpr haccepting)
    next => exact .idle _
  | discount guard =>
    rw [step]
    split
    next hheld => exact .discounted hheld
    next => exact .idle _
  | announce guard =>
    rw [step]
    split
    next hdiscounted => exact .announced hdiscounted
    next => exact .idle _
  | beginShutdown => exact .shutDown
  | subscribe => exact .subscribed
  | turn turn wait => exact .turned turn wait

variable {s t : Tracking} {e : Event}

/-- The count is that of the guards that are held. -/
def Counts (s : Tracking) : Prop := s.tracker.active = s.guards.count .held

private theorem count_held_set {guards : List Guard} {guard : Nat} {old new : Guard}
    (hold : guards[guard]? = some old) (hnew : new ≠ .held) :
    (guards.set guard new).count .held = guards.count .held - if old = .held then 1 else 0 := by
  obtain ⟨hlt, hget⟩ := List.getElem?_eq_some_iff.mp hold
  rw [List.count_set hlt, hget]
  simp only [beq_iff_eq, if_neg hnew, Nat.add_zero]

/-- A move keeps the count that of the guards. -/
theorem Counts.move (h : s.Counts) (hmove : Move s e t) : t.Counts := by
  rw [Counts] at h ⊢
  cases hmove with
  | accepted => rw [List.count_append, ← h, List.count_singleton_self]
  | discounted hheld =>
    rw [count_held_set hheld (by decide), ← h]
    rfl
  | announced hdiscounted =>
    rw [count_held_set hdiscounted (by decide), ← h]
    rfl
  | idle | shutDown | subscribed | turned => exact h

/-- After every run the count is that of the guards. -/
theorem counts_run (events : List Event) : (run events).Counts := by
  induction events using List.reverseRecOn with
  | nil => rfl
  | append_singleton events e ih =>
    rw [run_concat]
    exact ih.move (move_step _ e)

/-- A count above zero has a guard that is held. -/
theorem Counts.exists_held (h : s.Counts) (hactive : s.tracker.active ≠ 0) : .held ∈ s.guards := by
  rw [← List.count_pos_iff, ← h]
  exact Nat.pos_of_ne_zero hactive

/-- A connection is taken off a count that has it. -/
theorem Counts.discount (h : s.Counts) {guard : Nat} (hheld : s.guards[guard]? = some .held) :
    s.tracker.active = (s.step (.discount guard)).tracker.active + 1 := by
  have hpos : 0 < s.tracker.active := by
    rw [h, List.count_pos_iff]
    exact List.mem_of_getElem? hheld
  rw [step, if_pos hheld]
  exact (Nat.sub_add_cancel hpos).symm

/-- A shutdown is not taken back. -/
theorem shuttingDown_move (h : s.tracker.shuttingDown = true) (hmove : Move s e t) :
    t.tracker.shuttingDown = true := by
  cases hmove with
  | shutDown => rfl
  | idle | accepted | discounted | announced | subscribed | turned => exact h

private theorem shuttingDown_of_mem {events : List Event} (h : .beginShutdown ∈ events) :
    (run events).tracker.shuttingDown = true := by
  induction events using List.reverseRecOn with
  | nil => cases h
  | append_singleton events e ih =>
    rw [run_concat]
    rcases List.mem_append.mp h with h | h
    · exact shuttingDown_move (ih h) (move_step _ e)
    · cases List.mem_singleton.mp h
      rfl

/-- After the shutdown has begun, the count does not grow. -/
theorem active_move_le (h : s.tracker.shuttingDown = true) (hmove : Move s e t) :
    t.tracker.active ≤ s.tracker.active := by
  cases hmove with
  | accepted haccepting =>
    rw [h] at haccepting
    cases haccepting
  | discounted => exact Nat.sub_le _ _
  | idle | announced | shutDown | subscribed | turned => exact Nat.le_refl _

/-- Once a shutdown has begun, no guard is given out. -/
theorem length_guards_move (h : s.tracker.shuttingDown = true) (hmove : Move s e t) :
    t.guards.length = s.guards.length := by
  cases hmove with
  | accepted haccepting =>
    rw [h] at haccepting
    cases haccepting
  | discounted | announced => exact List.length_set
  | idle | shutDown | subscribed | turned => rfl

/-- A guard is held until the end of its own connection. -/
theorem held_move {guard : Nat} (h : s.guards[guard]? = some .held) (hother : e ≠ .discount guard)
    (hmove : Move s e t) : t.guards[guard]? = some .held := by
  cases hmove with
  | idle | shutDown | subscribed | turned => exact h
  | accepted => exact (List.getElem?_append_left (List.getElem?_eq_some_iff.mp h).1).trans h
  | @discounted other =>
    refine (List.getElem?_set_ne ?_).trans h
    rintro rfl
    exact hother rfl
  | @announced other hdiscounted =>
    refine (List.getElem?_set_ne ?_).trans h
    rintro rfl
    rw [h] at hdiscounted
    cases hdiscounted

/-- Only a subscription and their own turns change the calls that wait. -/
theorem waits_move (hmove : Move s e t) (hsubscribe : e ≠ .subscribe)
    (hturn : ∀ turn wait, e ≠ .turn turn wait) : t.waits = s.waits := by
  cases hmove with
  | subscribed => exact absurd rfl hsubscribe
  | turned turn wait => exact absurd rfl (hturn turn wait)
  | idle | accepted | discounted | announced | shutDown => rfl

private theorem active_foldl_le (h : s.tracker.shuttingDown = true) (events : List Event) :
    (events.foldl step s).tracker.active ≤ s.tracker.active := by
  induction events generalizing s with
  | nil => exact Nat.le_refl _
  | cons e events ih =>
    exact Nat.le_trans (ih (shuttingDown_move h (move_step s e))) (active_move_le h (move_step s e))

/-- A call that sleeps with nothing announced to it has a guard left whose end is to be announced. -/
structure Attended (s : Tracking) (w : Wait) : Prop where
  heard : w.waiter.heard ≤ s.tracker.announcements
  awaited : w.phase = .parked → w.waiter.heard = s.tracker.announcements →
    ∃ g ∈ s.guards, g ≠ .dropped

private theorem Attended.turn {w : Wait} (h : s.Attended w) (hcounts : s.Counts) (turn : WaitTurn) :
    s.Attended (w.turn s.tracker turn) := by
  obtain ⟨waiter, phase⟩ := w
  cases phase with
  | idle | cutOff => cases turn <;> exact h
  | looking =>
    cases turn with
    | wake | expire => exact h
    | look =>
      by_cases hactive : s.tracker.active = 0
      · rw [Wait.look_of_idle rfl hactive]
        exact ⟨h.heard, fun hparked => by cases hparked⟩
      · rw [Wait.look_of_open rfl hactive]
        exact ⟨h.heard, fun _ _ => ⟨.held, hcounts.exists_held hactive, by decide⟩⟩
  | parked =>
    cases turn with
    | look => exact h
    | expire => exact ⟨h.heard, fun hparked => by cases hparked⟩
    | wake =>
      simp only [Wait.turn]
      split
      next => exact ⟨Nat.le_refl _, fun hparked => by cases hparked⟩
      next => exact h

/-- What is done to the guards keeps awake or asleep with a reason whoever waits. -/
theorem Attended.move {w : Wait} (h : s.Attended w) (hmove : Move s e t) : t.Attended w := by
  cases hmove with
  | idle | shutDown | subscribed | turned => exact ⟨h.heard, h.awaited⟩
  | accepted => exact ⟨h.heard, fun _ _ => ⟨.held, List.mem_concat_self, by decide⟩⟩
  | @discounted guard hheld =>
    obtain ⟨hlt, -⟩ := List.getElem?_eq_some_iff.mp hheld
    exact ⟨h.heard, fun _ _ => ⟨.discounted, List.mem_set hlt _, by decide⟩⟩
  | announced =>
    have hheard : w.waiter.heard < s.tracker.announce.announcements := Nat.lt_succ_of_le h.heard
    exact ⟨Nat.le_of_lt hheard, fun _ heq => absurd heq (Nat.ne_of_lt hheard)⟩

private theorem mem_modify {α : Type} {f : α → α} {i : Nat} {l : List α} {a : α}
    (h : a ∈ l.modify i f) : ∃ b ∈ l, a = b ∨ a = f b := by
  obtain ⟨j, hj⟩ := List.mem_iff_getElem?.mp h
  rw [List.getElem?_modify] at hj
  obtain ⟨b, hb, hab⟩ := Option.map_eq_some_iff.mp hj
  refine ⟨b, List.mem_of_getElem? hb, ?_⟩
  split at hab
  · exact .inr hab.symm
  · exact .inl hab.symm

/-- After every run, a call that sleeps will be woken once it can go on. -/
theorem attended_run (events : List Event) : ∀ w ∈ (run events).waits, (run events).Attended w := by
  induction events using List.reverseRecOn with
  | nil => exact List.forall_mem_nil _
  | append_singleton events e ih =>
    rw [run_concat]
    have hmove := move_step (run events) e
    intro w hw
    generalize (run events).step e = t at hmove hw
    cases id hmove with
    | subscribed =>
      rcases List.mem_append.mp hw with hw | hw
      · exact (ih w hw).move hmove
      · cases List.mem_singleton.mp hw
        exact ⟨Nat.le_refl _, fun hparked => by cases hparked⟩
    | turned turn wait =>
      obtain ⟨v, hv, rfl | rfl⟩ := mem_modify hw
      · exact (ih w hv).move hmove
      · exact ((ih v hv).turn (counts_run events) turn).move hmove
    | idle | accepted | discounted | announced | shutDown => exact (ih w hw).move hmove

/-- With nothing open and no end left to announce, nobody sleeps. -/
theorem Attended.isAwake {w : Wait} (h : s.Attended w) (hcounts : s.Counts)
    (hactive : s.tracker.active = 0) (hannounced : .discounted ∉ s.guards)
    (hparked : w.phase = .parked) : w.waiter.isAwake s.tracker = true := by
  refine decide_eq_true (Nat.lt_of_le_of_ne h.heard fun hheard => ?_)
  obtain ⟨g, hg, hopen⟩ := h.awaited hparked hheard
  cases g with
  | dropped => exact hopen rfl
  | discounted => exact hannounced hg
  | held =>
    rw [hcounts, List.count_eq_zero] at hactive
    exact hactive hg

/-- A call that goes on and looks at a count of zero ends with it. -/
theorem Attended.result? {w : Wait} (h : s.Attended w) (hcounts : s.Counts)
    (hactive : s.tracker.active = 0) (hannounced : .discounted ∉ s.guards)
    (hwaiting : w.result? = none) :
    ((w.turn s.tracker .wake).turn s.tracker .look).result? = some 0 := by
  cases hphase : w.phase with
  | looking =>
    have hwake : w.turn s.tracker .wake = w := by simp [Wait.turn, hphase]
    rw [hwake, Wait.look_of_idle hphase hactive]
    rfl
  | parked =>
    have hwake : w.turn s.tracker .wake = ⟨w.waiter.look s.tracker, .looking⟩ := by
      simp [Wait.turn, hphase, h.isAwake hcounts hactive hannounced hphase]
    rw [hwake, Wait.look_of_idle rfl hactive]
    rfl
  | idle | cutOff => simp [Wait.result?, hphase] at hwaiting

/-- A call that waits is at a place, and has not ended. -/
def IsWaiting (s : Tracking) (wait : Nat) : Prop := ∃ w, s.waits[wait]? = some w ∧ w.result? = none

/-- The call at a place is about to look. -/
def IsLooking (s : Tracking) (wait : Nat) : Prop :=
  ∃ w, s.waits[wait]? = some w ∧ w.phase = .looking

/-- The call at a place sleeps. -/
def IsParked (s : Tracking) (wait : Nat) : Prop := ∃ w, s.waits[wait]? = some w ∧ w.phase = .parked

/-- A number is given back at a look or at the deadline, and then kept. -/
theorem result?_move {w : Wait} {wait n : Nat} (hmove : Move s e t) (hw : t.waits[wait]? = some w)
    (hresult : w.result? = some n) :
    s.waits[wait]? = some w ∨
      (e = .turn .look wait ∧ s.IsLooking wait ∧ s.tracker.active = 0 ∧ n = 0) ∨
      e = .turn .expire wait ∧ s.IsParked wait ∧ n = s.tracker.active := by
  cases hmove with
  | idle | accepted | discounted | announced | shutDown => exact .inl hw
  | subscribed =>
    rw [List.getElem?_append] at hw
    split at hw
    next => exact .inl hw
    next =>
      cases List.mem_singleton.mp (List.mem_of_getElem? hw)
      cases hresult
  | turned turn place =>
    rw [List.getElem?_modify] at hw
    obtain ⟨v, hv, hvw⟩ := Option.map_eq_some_iff.mp hw
    split at hvw
    next hplace =>
      subst hplace hvw
      cases hended : v.result? with
      | some m =>
        rw [Wait.turn_of_result? hended]
        exact .inl hv
      | none =>
        rcases Wait.result?_turn hended hresult with
          ⟨rfl, hlooking, hfound⟩ | ⟨rfl, hparked, hleft⟩
        · exact .inr (.inl ⟨rfl, ⟨v, hv, hlooking⟩, hfound⟩)
        · exact .inr (.inr ⟨rfl, ⟨v, hv, hparked⟩, hleft⟩)
    next =>
      subst hvw
      exact .inl hv

/-- A call that has ended stays as it is. -/
theorem ended_move {w : Wait} {wait n : Nat} (hw : s.waits[wait]? = some w)
    (hresult : w.result? = some n) (hmove : Move s e t) : t.waits[wait]? = some w := by
  cases hmove with
  | idle | accepted | discounted | announced | shutDown => exact hw
  | subscribed => exact (List.getElem?_append_left (List.getElem?_eq_some_iff.mp hw).1).trans hw
  | turned turn place =>
    rw [List.getElem?_modify, hw]
    split
    · exact congrArg some (Wait.turn_of_result? hresult s.tracker turn)
    · rfl

/-- A call has looked, before its deadline, and has found no connection open. -/
def SeenIdle (events : List Event) (wait : Nat) : Prop :=
  ∃ earlier later, events = earlier ++ .turn .look wait :: later ∧
    (run earlier).IsLooking wait ∧ (run earlier).tracker.active = 0

/-- The deadline of a call has come while it slept, with a number of connections open. -/
def CutOffAt (events : List Event) (wait n : Nat) : Prop :=
  ∃ earlier later, events = earlier ++ .turn .expire wait :: later ∧
    (run earlier).IsParked wait ∧ (run earlier).tracker.active = n

private theorem SeenIdle.concat {events : List Event} {wait : Nat} (h : SeenIdle events wait)
    (e : Event) : SeenIdle (events ++ [e]) wait := by
  obtain ⟨earlier, later, rfl, hlooked⟩ := h
  refine ⟨earlier, later ++ [e], ?_, hlooked⟩
  rw [List.append_assoc, List.cons_append]

private theorem CutOffAt.concat {events : List Event} {wait n : Nat} (h : CutOffAt events wait n)
    (e : Event) : CutOffAt (events ++ [e]) wait n := by
  obtain ⟨earlier, later, rfl, hexpired⟩ := h
  refine ⟨earlier, later ++ [e], ?_, hexpired⟩
  rw [List.append_assoc, List.cons_append]

/-- A call that has seen no connection open has ended with that. -/
theorem SeenIdle.exists_idle {events : List Event} {wait : Nat} (h : SeenIdle events wait) :
    ∃ w, (run events).waits[wait]? = some w ∧ w.phase = .idle := by
  obtain ⟨earlier, later, rfl, ⟨w, hw, hlooking⟩, hnone⟩ := h
  induction later using List.reverseRecOn with
  | nil =>
    refine ⟨{ w with phase := .idle }, ?_, rfl⟩
    rw [run_concat, step, List.getElem?_modify_eq, hw]
    exact congrArg some (Wait.look_of_idle hlooking hnone)
  | append_singleton later e ih =>
    obtain ⟨v, hv, hidle⟩ := ih
    rw [← List.cons_append, ← List.append_assoc, run_concat]
    exact ⟨v, ended_move hv (by rw [Wait.result?, hidle]) (move_step _ e), hidle⟩

/-- What a call gives back: zero if it has seen no connection open before its deadline, otherwise the
number of connections open at its deadline. That can be zero as well. -/
inductive Outcome (events : List Event) (wait : Nat) : Nat → Prop where
  | idle (seen : SeenIdle events wait) : Outcome events wait 0
  | cutOff {left : Nat} (unseen : ¬SeenIdle events wait) (expired : CutOffAt events wait left) :
      Outcome events wait left

/-- A call that has ended gives back its outcome. -/
theorem outcome_of_result? {events : List Event} {wait n : Nat} {w : Wait}
    (hw : (run events).waits[wait]? = some w) (hresult : w.result? = some n) :
    Outcome events wait n := by
  by_cases hseen : SeenIdle events wait
  · obtain ⟨v, hv, hidle⟩ := hseen.exists_idle
    cases hw.symm.trans hv
    rw [Wait.result?, hidle] at hresult
    cases hresult
    exact .idle hseen
  · refine .cutOff hseen ?_
    induction events using List.reverseRecOn with
    | nil => cases hw
    | append_singleton events e ih =>
      rw [run_concat] at hw
      rcases result?_move (move_step _ e) hw hresult with
        hw | ⟨rfl, hlooking, hnone, -⟩ | ⟨rfl, hparked, hleft⟩
      · exact (ih hw fun hearlier => hseen (hearlier.concat e)).concat e
      · exact absurd ⟨events, [], rfl, hlooking, hnone⟩ hseen
      · exact ⟨events, [], rfl, hparked, hleft.symm⟩

/-- The count is exact, a shutdown lets nobody in, and every wait comes to its end. -/
structure Exact (events : List Event) : Prop where
  active : (run events).tracker.active = (run events).guards.count .held
  /-- No connection is taken off a count that is zero. -/
  discounted : ∀ guard, (run events).guards[guard]? = some .held →
    (run events).tracker.active = (run (events ++ [.discount guard])).tracker.active + 1
  refused : .beginShutdown ∈ events →
    (run events).tracker.accept? = none ∧ run (events ++ [.accept]) = run events
  shrinking : .beginShutdown ∈ events → ∀ more,
    (run (events ++ more)).tracker.active ≤ (run events).tracker.active
  /-- With nothing open and every end announced, nobody is left asleep. -/
  awake : (run events).tracker.active = 0 → .discounted ∉ (run events).guards →
    ∀ w ∈ (run events).waits, w.phase = .parked → w.waiter.isAwake (run events).tracker
  /-- Whoever waits then ends with no connection at its next look. -/
  returning : (run events).tracker.active = 0 → .discounted ∉ (run events).guards →
    ∀ wait, (run events).IsWaiting wait →
      (run (events ++ [.turn .wake wait, .turn .look wait])).waits[wait]?.bind Wait.result? = some 0
  /-- A call that has seen no connection open has ended, whatever comes after it. -/
  seen : ∀ wait, SeenIdle events wait → (run events).waits[wait]?.bind Wait.result? = some 0
  /-- A call that has ended gives zero if it has seen no connection open before its deadline, and the
  number of connections open at its deadline otherwise. -/
  outcome : ∀ wait w n, (run events).waits[wait]? = some w → w.result? = some n →
    Outcome events wait n

/-- Whatever the order of events, the count is exact, no wake-up is lost, and a wait gives what it
saw. -/
theorem exact_run (events : List Event) : Exact events where
  active := counts_run events
  discounted guard hheld := by
    rw [run_concat]
    exact (counts_run events).discount hheld
  refused hshutdown := by
    have hrefused : (run events).tracker.accept? = none := if_pos (shuttingDown_of_mem hshutdown)
    rw [run_concat, step, hrefused]
    exact ⟨rfl, rfl⟩
  shrinking hshutdown more := by
    rw [run_append]
    exact active_foldl_le (shuttingDown_of_mem hshutdown) more
  awake hactive hannounced w hw hparked :=
    (attended_run events w hw).isAwake (counts_run events) hactive hannounced hparked
  returning hactive hannounced wait hwaiting := by
    obtain ⟨w, hw, hnone⟩ := hwaiting
    have hresult := (attended_run events w (List.mem_of_getElem? hw)).result? (counts_run events)
      hactive hannounced hnone
    rw [run_append, List.foldl_cons, List.foldl_cons, List.foldl_nil, step, step,
      List.getElem?_modify_eq, List.getElem?_modify_eq, hw]
    exact hresult
  seen wait hseen := by
    obtain ⟨w, hw, hidle⟩ := hseen.exists_idle
    rw [hw, Option.bind_some, Wait.result?, hidle]
  outcome wait w n hw hresult := outcome_of_result? hw hresult

-- A connection ends between the last look of a call, which has found it open, and the deadline.
private def endUnseen : List Event :=
  [.accept, .subscribe, .turn .look 0, .discount 0, .turn .expire 0]

/-- The call gives zero, though it has never seen the count at zero. -/
theorem zero_unseen :
    (run endUnseen).waits[0]?.bind Wait.result? = some 0 ∧ ¬SeenIdle endUnseen 0 := by
  refine ⟨by decide, fun hseen => ?_⟩
  obtain ⟨w, hw, hidle⟩ := hseen.exists_idle
  cases hw
  cases hidle

end Tracking

end TenantGateway
