import TenantGateway.Proofs.RateLimit.Visits

/-! What an organization sees of counters that it shares with others. Its decisions rest on its own
allowed calls alone: calls for others, refused calls and calls that found no store can be taken out of
a run, and no other decision changes. -/
namespace TenantGateway.RateLimit

namespace MemoryStore

variable {s t : MemoryStore} {q : CounterQuery} {now later : Instant} {key : String}

/-- A call touches no counters but its own. -/
theorem live_check_of_ne (hs : s.Serving) (hd : (now.deadline? q.dailyTtl.toNat).isSome)
    (hm : (now.deadline? q.minuteTtl.toNat).isSome) (hle : now ≤ later) (hday : q.dailyKey ≠ key)
    (hmin : q.minuteKey ≠ key) :
    live (s.check q now).2.counters key later = live s.counters key later := by
  rcases check_cases hs hd hm with ⟨-, he⟩ | ⟨-, -, he⟩ | ⟨-, -, daily, minute, -, -, he⟩
  · rw [he]
    exact live_purge _ _ hle
  · rw [he]
    exact live_purge _ _ hle
  · rw [he, live_counted hle, if_neg hmin, if_neg hday]

/-- Stores that show the same counters under the names of a question answer it alike, and stay alike
wherever they were. -/
theorem check_congr (hs : s.Serving) (ht : t.Serving)
    (hday : live s.counters q.dailyKey now = live t.counters q.dailyKey now)
    (hmin : live s.counters q.minuteKey now = live t.counters q.minuteKey now) :
    (s.check q now).1 = (t.check q now).1 ∧
      ∀ key later, now ≤ later → live s.counters key later = live t.counters key later →
        live (s.check q now).2.counters key later = live (t.check q now).2.counters key later := by
  have hcday : count s.counters q.dailyKey now = count t.counters q.dailyKey now := by
    rw [count, hday, count]
  have hcmin : count s.counters q.minuteKey now = count t.counters q.minuteKey now := by
    rw [count, hmin, count]
  have hrefusal : ∀ outcome, refusal s q now outcome = refusal t q now outcome := by
    intro outcome
    rw [refusal, hcday, hcmin, hday, hmin, refusal]
  have hpurged : ∀ key later, now ≤ later → live s.counters key later = live t.counters key later →
      live (s.purged now).counters key later = live (t.purged now).counters key later := by
    intro key later hle h
    rw [purged, purged, live_purge _ _ hle, live_purge _ _ hle, h]
  rw [check_eq hs, check_eq ht, hcday, hcmin, hday, hmin, hrefusal, hrefusal]
  split
  · exact ⟨rfl, hpurged⟩
  · split
    · exact ⟨rfl, hpurged⟩
    · split
      · refine ⟨rfl, fun key later hle h => ?_⟩
        rw [live_counted hle, live_counted hle, h]
      · exact ⟨rfl, hpurged⟩

/-- Two stores that look the same to an organization from `now` on. -/
structure Alike (o : String) (now : Instant) (s t : MemoryStore) : Prop where
  available : s.available = t.available
  poisoned : s.poisoned = t.poisoned
  shown : ∀ c : Call, c.organization = o → ∀ w later, now ≤ later →
    live s.counters (c.key w) later = live t.counters (c.key w) later

namespace Alike

variable {o : String} {u : MemoryStore}

private theorem refl (o : String) (now : Instant) (s : MemoryStore) : Alike o now s s :=
  ⟨rfl, rfl, fun _ _ _ _ _ => rfl⟩

private theorem symm (h : Alike o now s t) : Alike o now t s :=
  ⟨h.available.symm, h.poisoned.symm, fun c hc w later hle => (h.shown c hc w later hle).symm⟩

private theorem trans (h : Alike o now s t) (h' : Alike o now t u) : Alike o now s u :=
  ⟨h.available.trans h'.available, h.poisoned.trans h'.poisoned,
    fun c hc w later hle => (h.shown c hc w later hle).trans (h'.shown c hc w later hle)⟩

private theorem mono (h : Alike o now s t) (hle : now ≤ later) : Alike o later s t :=
  ⟨h.available, h.poisoned, fun c hc w time ht => h.shown c hc w time (Nat.le_trans hle ht)⟩

/-- Switching both stores keeps them alike. -/
theorem switch (h : Alike o now s t) (available : Bool) :
    Alike o now { s with available } { t with available } :=
  ⟨rfl, h.poisoned, h.shown⟩

end Alike

end MemoryStore

open MemoryStore

namespace Limiter

variable {s t : MemoryStore} {now : Instant} {o : String} {c : Call}

/-- A store that is not available is left as it was. -/
theorem call_of_unavailable (l : Limiter) (h : s.available = false) (c : Call) :
    l.call s c =
      (.answer (.error (.unavailable (.unavailable "memory counter store marked unavailable"))), s) := by
  have hzero : ¬ l.timeout < Duration.zero := Nat.not_lt_zero _
  simp only [call, check, h, settle, if_neg hzero, Bool.false_eq_true, not_false_eq_true, if_true]

/-- A call whose deadlines are in range breaks no store and switches none. -/
theorem flags_call (l : Limiter) (hsound : s.poisoned = false) (hr : l.InRange c) :
    (l.call s c).2.available = s.available ∧ (l.call s c).2.poisoned = false := by
  cases ha : s.available with
  | false =>
    rw [l.call_of_unavailable ha]
    exact ⟨ha, hsound⟩
  | true =>
    obtain ⟨d, -, -, ⟨-, he⟩ | ⟨-, _, _, he, -⟩⟩ := l.call_cases ⟨ha, hsound⟩ hr
    · rw [he]
      exact ⟨ha, hsound⟩
    · rw [he]
      exact ⟨ha, hsound⟩

/-- A refused call, or one that finds no store, leaves no trace. -/
theorem alike_call_of_refused (l : Limiter) (hsound : s.poisoned = false) (hr : l.InRange c)
    (hrefused : (l.call s c).1.isAllowed = false) : Alike o c.instant s (l.call s c).2 := by
  cases ha : s.available with
  | false =>
    rw [l.call_of_unavailable ha]
    exact Alike.refl _ _ _
  | true =>
    obtain ⟨d, hd, -, ⟨-, he⟩ | ⟨hallowed, -⟩⟩ := l.call_cases ⟨ha, hsound⟩ hr
    · rw [he]
      exact ⟨rfl, rfl, fun _ _ _ _ hle => (live_purge _ _ hle).symm⟩
    · rw [hd, Outcome.isAllowed, hallowed] at hrefused
      contradiction

/-- A call for another organization leaves no trace that this one could see. -/
theorem alike_call_of_ne (l : Limiter) (hsound : s.poisoned = false) (hr : l.InRange c)
    (hne : c.organization ≠ o) : Alike o c.instant s (l.call s c).2 := by
  cases ha : s.available with
  | false =>
    rw [l.call_of_unavailable ha]
    exact Alike.refl _ _ _
  | true =>
    obtain ⟨havail, hpois⟩ := l.flags_call hsound hr
    refine ⟨havail.symm, hsound.trans hpois.symm, fun e he w later hle => ?_⟩
    have hother : ∀ v, c.key v ≠ e.key w := by
      intro v hkey
      by_cases hv : v = w
      · subst hv
        have hs := Call.key_eq_iff.mp hkey
        have ho : c.organization = e.organization := by cases v <;> exact hs.1
        exact hne (ho.trans he)
      · exact Call.key_ne_of_window_ne hv c e hkey
    have hkept := live_check_of_ne (q := l.query c.organization c.quota c.time) ⟨ha, hsound⟩
      (hr .daily) (hr .minute) hle (hother .daily) (hother .minute)
    exact hkept.symm

/-- Stores that look the same to an organization decide its calls alike, and still look the same
afterwards. -/
theorem call_congr (l : Limiter) (h : Alike o now s t) (hsound : s.poisoned = false)
    (hr : l.InRange c) (ho : c.organization = o) (hle : now ≤ c.instant) :
    (l.call s c).1 = (l.call t c).1 ∧ Alike o c.instant (l.call s c).2 (l.call t c).2 := by
  cases ha : s.available with
  | false =>
    rw [l.call_of_unavailable ha, l.call_of_unavailable (h.available.symm.trans ha)]
    exact ⟨rfl, h.mono hle⟩
  | true =>
    have htsound := h.poisoned.symm.trans hsound
    obtain ⟨hreply, hkept⟩ := check_congr (q := l.query c.organization c.quota c.time)
      ⟨ha, hsound⟩ ⟨h.available.symm.trans ha, htsound⟩
      (h.shown c ho .daily c.instant hle) (h.shown c ho .minute c.instant hle)
    obtain ⟨havail, hpois⟩ := l.flags_call hsound hr
    obtain ⟨htavail, htpois⟩ := l.flags_call htsound hr
    refine ⟨?_, ?_⟩
    · simp only [call, hreply]
    · refine ⟨?_, hpois.trans htpois.symm, fun e he w later hlater => ?_⟩
      · rw [havail, htavail, h.available]
      · exact hkept _ _ hlater (h.shown e he w later (Nat.le_trans hle hlater))

end Limiter

/-- What happens to counters that limiters share. -/
inductive StoreEvent where
  | switch (available : Bool)
  | visit (v : Visit)

/-- A visit that has ended. -/
structure LogEntry where
  visit : Visit
  outcome : Limiter.Outcome

namespace LogEntry

def isFor (o : String) (x : LogEntry) : Bool := x.visit.organization = o

/-- A visit that the calls for an organization may not feel: it was for another one, or it was not
allowed, because it was denied or found no store. -/
def IsIdle (o : String) (x : LogEntry) : Prop :=
  x.visit.organization ≠ o ∨ x.outcome.isAllowed = false

instance (o : String) (x : LogEntry) : Decidable (x.IsIdle o) :=
  inferInstanceAs (Decidable (_ ∨ _))

end LogEntry

/-- The elements whose places are kept. -/
def keepAt {α : Type} (kept : Nat → Bool) : List α → List α
  | [] => []
  | x :: xs => if kept 0 then x :: keepAt (kept ∘ (· + 1)) xs else keepAt (kept ∘ (· + 1)) xs

namespace StoreEvent

def visits : List StoreEvent → List Visit
  | [] => []
  | .switch _ :: events => visits events
  | .visit v :: events => v :: visits events

/-- A run without the visits whose places are not kept. The store is switched as before, and the
remaining visits come at the same times. -/
def thin (kept : Nat → Bool) : List StoreEvent → List StoreEvent
  | [] => []
  | .switch available :: events => .switch available :: thin kept events
  | .visit v :: events =>
    if kept 0 then .visit v :: thin (kept ∘ (· + 1)) events else thin (kept ∘ (· + 1)) events

end StoreEvent

/-- How the visits of a run end, in order. -/
def MemoryStore.log (s : MemoryStore) : List StoreEvent → List LogEntry
  | [] => []
  | .switch available :: events => log { s with available } events
  | .visit v :: events =>
    let (outcome, s) := v.limiter.call s v.toCall
    ⟨v, outcome⟩ :: log s events

namespace MemoryStore

variable {s t : MemoryStore} {now : Instant} {o : String}

private theorem Alike.log_eq (h : Alike o now s t) (hsound : s.poisoned = false)
    {events : List StoreEvent} (hnow : ∀ v ∈ StoreEvent.visits events, now ≤ v.instant)
    (hreg : Visit.Regular (StoreEvent.visits events)) {kept : Nat → Bool}
    (hidle : ∀ i x, (s.log events)[i]? = some x → kept i = false → x.IsIdle o) :
    (t.log (StoreEvent.thin kept events)).filter (·.isFor o) =
      (keepAt kept (s.log events)).filter (·.isFor o) := by
  induction events generalizing s t now kept with
  | nil => rfl
  | cons event events ih =>
    cases event with
    | switch available => exact ih (h.switch available) hsound hnow hreg hidle
    | visit v =>
      have hle := hnow v List.mem_cons_self
      have hr := hreg.inRange v List.mem_cons_self
      obtain ⟨hfirst, horder⟩ := List.pairwise_cons.mp hreg.order
      have hrest : Visit.Regular (StoreEvent.visits events) :=
        ⟨horder, fun e he => hreg.inRange e (List.mem_cons_of_mem _ he)⟩
      have hafter := (v.limiter.flags_call hsound hr).2
      have hidleRest : ∀ i x, ((v.limiter.call s v.toCall).2.log events)[i]? = some x →
          (kept ∘ (· + 1)) i = false → x.IsIdle o := fun i x hx hi => hidle (i + 1) x hx hi
      by_cases hkept : kept 0 = true
      · simp only [StoreEvent.thin, log, keepAt, hkept, if_true]
        by_cases ho : v.organization = o
        · obtain ⟨hout, halike⟩ := v.limiter.call_congr h hsound hr ho hle
          have hfor : ∀ outcome, LogEntry.isFor o ⟨v, outcome⟩ = true := fun _ => decide_eq_true ho
          rw [List.filter_cons_of_pos (hfor _), List.filter_cons_of_pos (hfor _), hout,
            ih halike hafter hfirst hrest hidleRest]
        · have htsound := h.poisoned.symm.trans hsound
          have halike := (v.limiter.alike_call_of_ne hsound hr ho).symm.trans
            ((h.mono hle).trans (v.limiter.alike_call_of_ne htsound hr ho))
          have hfor : ∀ outcome, ¬LogEntry.isFor o ⟨v, outcome⟩ = true :=
            fun _ => mt of_decide_eq_true ho
          rw [List.filter_cons_of_neg (hfor _), List.filter_cons_of_neg (hfor _),
            ih halike hafter hfirst hrest hidleRest]
      · simp only [StoreEvent.thin, log, keepAt, hkept, if_false, Bool.false_eq_true]
        have htrace : Alike o v.instant s (v.limiter.call s v.toCall).2 := by
          rcases hidle 0 _ rfl (Bool.eq_false_iff.mpr hkept) with hne | hrefused
          · exact v.limiter.alike_call_of_ne hsound hr hne
          · exact v.limiter.alike_call_of_refused hsound hr hrefused
        exact ih (htrace.symm.trans (h.mono hle)) hafter hfirst hrest hidleRest

/-- An organization's decisions stay the same, in every field, when calls for others, denied calls and
calls that found no store are taken out of a run, whatever the organizations are called, whatever
their clocks say, and however the store is switched. -/
theorem log_thin (events : List StoreEvent) (kept : Nat → Bool) (o : String)
    (hreg : Visit.Regular (StoreEvent.visits events))
    (hidle : ∀ i x, (empty.log events)[i]? = some x → kept i = false → x.IsIdle o) :
    (empty.log (StoreEvent.thin kept events)).filter (·.isFor o) =
      (keepAt kept (empty.log events)).filter (·.isFor o) :=
  (Alike.refl o .start empty).log_eq rfl (fun _ _ => Nat.zero_le _) hreg hidle

/-- A call that finds no store, one for an organization whose name holds the other's key, and a denied
one are taken out; the wall clock jumps back and forth. -/
theorem log_thin_of_lookalikes :
    let events : List StoreEvent := [.visit (Visit.knock "a" 110 10 (by decide)), .switch false,
      .visit (Visit.knock "a" 115 11 (by decide)), .switch true,
      .visit (Visit.knock "a\x7d:minute:1" 90 12 (by decide)), .visit (Visit.knock "a" 119 13 (by decide)),
      .visit (Visit.knock "a" 50 14 (by decide)), .visit (Visit.knock "a" 200 90 (by decide))]
    let kept : Nat → Bool := fun i => i = 0 || 4 ≤ i
    Visit.Regular (StoreEvent.visits events) ∧
      (∀ i x, (empty.log events)[i]? = some x → kept i = false → x.IsIdle "a") ∧
      (empty.log (StoreEvent.thin kept events)).filter (·.isFor "a") =
        (keepAt kept (empty.log events)).filter (·.isFor "a") := by
  intro events kept
  have hreg : Visit.Regular (StoreEvent.visits events) := by
    refine ⟨by simp [events, StoreEvent.visits, Visit.knock], ?_⟩
    intro v hv w
    simp only [events, StoreEvent.visits, List.mem_cons, List.not_mem_nil, or_false] at hv
    rcases hv with rfl | rfl | rfl | rfl | rfl | rfl <;> cases w <;> decide
  have hidle : ∀ i x, (empty.log events)[i]? = some x → kept i = false → x.IsIdle "a" := by
    have hfour : ∀ i < 4, kept i = false → ∀ x ∈ (empty.log events)[i]?, x.IsIdle "a" := by
      decide +kernel
    intro i x hx hi
    have hlt : i < 4 := by
      simp only [kept, Bool.or_eq_false_iff, decide_eq_false_iff_not] at hi
      omega
    exact hfour i hlt hi x hx
  exact ⟨hreg, hidle, log_thin events kept "a" hreg hidle⟩

end MemoryStore

end TenantGateway.RateLimit
