import TenantGateway.Proofs.Service.Tracking
import TenantGateway.Simulation.Connections

/-! Connections on a virtual clock are a run of tracked connections, and what a session's wait gives
back is the outcome of a call that waits in this run. -/
namespace TenantGateway

namespace Tracking

/-- A counted connection ends in both of its steps, and nobody who waits takes a turn. -/
theorem exists_release (events : List Event) (hactive : (run events).tracker.active ≠ 0) :
    ∃ more, (run (events ++ more)).tracker = (run events).tracker.release ∧
      (run (events ++ more)).waits = (run events).waits := by
  obtain ⟨guard, hheld⟩ := List.mem_iff_getElem?.mp ((counts_run events).exists_held hactive)
  have hlt := (List.getElem?_eq_some_iff.mp hheld).1
  refine ⟨[.discount guard, .announce guard], ?_⟩
  rw [run_append, List.foldl_cons, List.foldl_cons, List.foldl_nil]
  generalize run events = t at hheld hlt
  have hdiscount : t.step (.discount guard) =
      { t with tracker := t.tracker.discount, guards := t.guards.set guard .discounted } :=
    if_pos hheld
  rw [hdiscount, step, if_pos (List.getElem?_set_self hlt)]
  exact ⟨rfl, rfl⟩

/-- A call that sleeps is cut off at its deadline. -/
theorem IsParked.cutOff {events : List Event} {wait : Nat} (h : (run events).IsParked wait) :
    Outcome (events ++ [.turn .expire wait]) wait (run events).tracker.active := by
  obtain ⟨w, hw, hparked⟩ := h
  have hend : w.turn (run events).tracker .expire =
      { w with phase := .cutOff (run events).tracker.active } := by
    simp only [Wait.turn, hparked]
  refine outcome_of_result? (w := { w with phase := .cutOff (run events).tracker.active }) ?_ rfl
  rw [run_concat, step, List.getElem?_modify_eq, hw]
  exact congrArg some hend

/-- A call that looks ends where no connection is open. -/
theorem IsLooking.idle {events : List Event} {wait : Nat} (h : (run events).IsLooking wait)
    (hnone : (run events).tracker.active = 0) : Outcome (events ++ [.turn .look wait]) wait 0 :=
  .idle ⟨events, [], rfl, h, hnone⟩

/-- A connection ends, and a call that sleeps wakes up of it. -/
theorem IsParked.exists_release {events : List Event} {wait : Nat}
    (h : (run events).IsParked wait) (hactive : (run events).tracker.active ≠ 0) :
    ∃ more, (run (events ++ more)).tracker = (run events).tracker.release ∧
      (run (events ++ more)).IsLooking wait := by
  obtain ⟨w, hw, hparked⟩ := h
  obtain ⟨more, htracker, hwaits⟩ := Tracking.exists_release events hactive
  refine ⟨more ++ [.turn .wake wait], ?_⟩
  rw [← List.append_assoc, run_concat]
  have hheard := (attended_run events w (List.mem_of_getElem? hw)).heard
  have hawake : w.waiter.isAwake (run events).tracker.release = true :=
    decide_eq_true (Nat.lt_succ_of_le hheard)
  refine ⟨htracker, ⟨w.waiter.look (run events).tracker.release, .looking⟩, ?_, rfl⟩
  rw [step, List.getElem?_modify_eq, hwaits, hw, htracker]
  simp [Wait.turn, hparked, hawake]

/-- A call that finds connections open goes to sleep. -/
theorem IsLooking.parked {events : List Event} {wait : Nat} (h : (run events).IsLooking wait)
    (hactive : (run events).tracker.active ≠ 0) :
    (run (events ++ [.turn .look wait])).IsParked wait := by
  obtain ⟨w, hw, hlooking⟩ := h
  refine ⟨{ w with phase := .parked }, ?_, rfl⟩
  rw [run_concat, step, List.getElem?_modify_eq, hw]
  exact congrArg some (Wait.look_of_open hlooking hactive)

end Tracking

namespace Simulation.ConnectionSession
open Tracking (IsLooking IsParked Outcome run run_append run_concat)

/-- Some run of tracked connections has come to where the session is. -/
structure Reached (s : ConnectionSession) (events : List Tracking.Event) : Prop where
  tracker : (run events).tracker = s.tracker
  active : s.tracker.active = s.held.length + s.closing.length

variable {s : ConnectionSession} {events : List Tracking.Event}

private theorem outcome_drainBefore (target : Instant) (closing : List Instant) (held : Nat)
    (now : Instant) {wait : Nat} (hparked : (run events).IsParked wait)
    (hactive : (run events).tracker.active = held + closing.length) :
    ∃ more, (run (events ++ more)).tracker =
        (drainBefore target (run events).tracker now closing).1 ∧
      Outcome (events ++ more) wait
        (drainBefore target (run events).tracker now closing).1.active ∧
      (drainBefore target (run events).tracker now closing).1.active =
        held + (drainBefore target (run events).tracker now closing).2.2.length := by
  induction closing generalizing now events with
  | nil =>
    refine ⟨[.turn .expire wait], ?_, hparked.cutOff, hactive⟩
    rw [run_append]
    rfl
  | cons due rest ih =>
    rw [drainBefore]
    split
    next hdue =>
      have hopen : (run events).tracker.active ≠ 0 := by
        rw [hactive, List.length_cons]
        exact Nat.succ_ne_zero _
      obtain ⟨more, htracker, hlooking⟩ := hparked.exists_release hopen
      have hreleased : (run (events ++ more)).tracker.active = held + rest.length := by
        rw [htracker]
        exact Nat.sub_eq_of_eq_add hactive
      rw [← htracker]
      dsimp only
      split
      next hdone =>
        have hnone : (run (events ++ more)).tracker.active = 0 := of_decide_eq_true hdone
        refine ⟨more ++ [.turn .look wait], ?_, ?_, hreleased⟩
        · rw [← List.append_assoc, run_concat]
          rfl
        · rw [hnone, ← List.append_assoc]
          exact hlooking.idle hnone
      next hopen =>
        have hsome : (run (events ++ more)).tracker.active ≠ 0 := fun hnone =>
          hopen (decide_eq_true hnone)
        have hsleeps := hlooking.parked hsome
        have hsame : (run (events ++ more ++ [.turn .look wait])).tracker =
            (run (events ++ more)).tracker := by
          rw [run_concat]
          rfl
        obtain ⟨others, hend⟩ := ih (if now < due then due else now) hsleeps (hsame ▸ hreleased)
        rw [hsame] at hend
        refine ⟨more ++ [.turn .look wait] ++ others, ?_⟩
        rw [← List.append_assoc, ← List.append_assoc]
        exact hend
    next =>
      refine ⟨[.turn .expire wait], ?_, hparked.cutOff, hactive⟩
      rw [run_append]
      rfl

/-- What a session's wait gives back is the outcome of a call that waits in the run. -/
theorem Reached.waitIdle (h : s.Reached events) (grace : Duration) :
    ∃ more wait, (s.waitIdle grace).2.Reached more ∧ Outcome more wait (s.waitIdle grace).1 := by
  have hlooking : (run (events ++ [.subscribe])).IsLooking (run events).waits.length := by
    refine ⟨.begin (run events).tracker, ?_, rfl⟩
    rw [run_concat]
    exact List.getElem?_concat_length
  have htracker : (run (events ++ [.subscribe])).tracker = s.tracker := by
    rw [run_concat]
    exact h.tracker
  have hlooked : (run (events ++ [.subscribe] ++ [.turn .look (run events).waits.length])).tracker =
      s.tracker := by
    rw [run_concat]
    exact htracker
  rw [ConnectionSession.waitIdle]
  split
  next hdone =>
    have hnone : (run (events ++ [.subscribe])).tracker.active = 0 :=
      htracker ▸ of_decide_eq_true hdone
    exact ⟨_, _, ⟨hlooked, h.active⟩, hlooking.idle hnone⟩
  next hopen =>
    have hsome : (run (events ++ [.subscribe])).tracker.active ≠ 0 := fun hnone =>
      hopen (decide_eq_true (htracker ▸ hnone))
    have hparked := hlooking.parked hsome
    split
    next =>
      have hcut := hparked.cutOff
      rw [hlooked] at hcut
      refine ⟨_, _, ⟨?_, h.active⟩, hcut⟩
      rw [run_concat]
      exact hlooked
    next =>
      obtain ⟨more, hdrained, houtcome, hactive⟩ := outcome_drainBefore (s.now + grace) s.closing
        s.held.length s.now hparked (hlooked ▸ h.active)
      rw [hlooked] at hdrained houtcome hactive
      exact ⟨_, _, ⟨hdrained, hactive⟩, houtcome⟩

/-- What can be done with a session. -/
inductive Deed where
  | accept (id : Nat)
  | close (id : Nat)
  | beginShutdown
  | closeLater (id : Nat) (after : Duration)
  | waitIdle (grace : Duration)

def perform (s : ConnectionSession) : Deed → ConnectionSession
  | .accept id => (s.accept id).2
  | .close id => (s.close id).2
  | .beginShutdown => s.beginShutdown
  | .closeLater id after => s.closeLater id after
  | .waitIdle grace => (s.waitIdle grace).2

private theorem length_insertDue (due : Instant) (closing : List Instant) :
    (insertDue due closing).length = closing.length + 1 := by
  induction closing with
  | nil => rfl
  | cons d rest ih =>
    rw [insertDue]
    split
    · rfl
    · exact congrArg (· + 1) ih

private theorem Reached.release (h : s.Reached events) {t : ConnectionSession}
    (htracker : t.tracker = s.tracker.release)
    (hlength : s.held.length + s.closing.length = t.held.length + t.closing.length + 1) :
    ∃ more, t.Reached more := by
  have hactive : (run events).tracker.active ≠ 0 := by
    rw [h.tracker, h.active, hlength]
    exact Nat.succ_ne_zero _
  obtain ⟨more, hreleased, -⟩ := Tracking.exists_release events hactive
  refine ⟨events ++ more, ?_, ?_⟩
  · rw [hreleased, h.tracker, htracker]
  · rw [htracker]
    exact Nat.sub_eq_of_eq_add (h.active.trans hlength)

private theorem Reached.perform (h : s.Reached events) (deed : Deed) :
    ∃ more, (s.perform deed).Reached more := by
  cases deed with
  | accept id =>
    rw [ConnectionSession.perform, accept]
    split
    next => exact ⟨events, h⟩
    next tracker haccept =>
      have haccepted : Reached { s with tracker, held := id :: s.held } (events ++ [.accept]) := by
        refine ⟨?_, ?_⟩
        · rw [run_concat, Tracking.step, h.tracker, haccept]
        · rw [ConnectionTracker.accept?] at haccept
          split at haccept
          · cases haccept
          · cases haccept
            have hactive := h.active
            simp only [List.length_cons]
            omega
      split
      next => exact haccepted.release rfl (Nat.add_right_comm ..)
      next => exact ⟨_, haccepted⟩
  | close id =>
    rw [ConnectionSession.perform, close]
    split
    next hheld =>
      refine h.release rfl ?_
      have hlength := List.length_erase_of_mem hheld
      have hpos := List.length_pos_of_mem hheld
      simp only
      omega
    next => exact ⟨events, h⟩
  | beginShutdown =>
    refine ⟨events ++ [.beginShutdown], ?_, h.active⟩
    rw [run_concat]
    exact congrArg ConnectionTracker.beginShutdown h.tracker
  | closeLater id after =>
    rw [ConnectionSession.perform, closeLater]
    split
    next hheld =>
      refine ⟨events, h.tracker, ?_⟩
      have hlength := List.length_erase_of_mem hheld
      have hpos := List.length_pos_of_mem hheld
      have hactive := h.active
      simp only [length_insertDue]
      omega
    next => exact ⟨events, h⟩
  | waitIdle grace =>
    obtain ⟨more, wait, hreached, -⟩ := h.waitIdle grace
    exact ⟨_, hreached⟩

private theorem reached_of_deeds (deeds : List Deed) :
    ∃ events, (deeds.foldl perform empty).Reached events := by
  induction deeds using List.reverseRecOn with
  | nil => exact ⟨[], rfl, rfl⟩
  | append_singleton deeds deed ih =>
    obtain ⟨events, h⟩ := ih
    rw [List.foldl_append]
    exact h.perform deed

/-- Whatever has been done with a session, a wait of it has seen that no connection was open, or
gives the number that was open at its deadline. -/
theorem outcome_of_deeds (deeds : List Deed) (grace : Duration) :
    ∃ events wait, ((deeds.foldl perform empty).waitIdle grace).2.Reached events ∧
      Outcome events wait ((deeds.foldl perform empty).waitIdle grace).1 := by
  obtain ⟨events, h⟩ := reached_of_deeds deeds
  exact h.waitIdle grace

end Simulation.ConnectionSession

end TenantGateway
