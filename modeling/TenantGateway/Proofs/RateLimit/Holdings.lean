import TenantGateway.Proofs.RateLimit.Visits

/-! What the store of one limiter holds after any calls, also where the clock cannot represent every
deadline: a counter shows how many calls of its window were allowed and ends a lifetime after the
first of them, unless a call has broken off inside the store, which then answers nobody. -/
namespace TenantGateway.RateLimit
open MemoryStore

/-- A store in which a call has broken off. -/
structure MemoryStore.Broken (s : MemoryStore) : Prop where
  available : s.available = true
  poisoned : s.poisoned = true

/-- The first call of a list that counts together with `c` in a window. -/
def Call.first? (c : Call) (w : LimitType) (h : List Call) : Option Call :=
  h.find? fun e => e.Shares c w

/-- The first call of a window is one of the calls, and in the window. -/
theorem Call.first?_eq_some {c first : Call} {w : LimitType} {h : List Call}
    (hfirst : c.first? w h = some first) : first ∈ h ∧ first.Shares c w := by
  have hshares := List.find?_some hfirst
  rw [decide_eq_true_eq] at hshares
  exact ⟨List.mem_of_find?_eq_some hfirst, hshares⟩

private theorem Call.first?_eq_none_of_tally {c : Call} {w : LimitType} {h : List Call}
    (hzero : c.tally w h = 0) : c.first? w h = none :=
  List.find?_eq_none.mpr (List.countP_eq_zero.mp hzero)

private theorem Call.first?_append {c first : Call} {w : LimitType} {h : List Call}
    (hfirst : c.first? w h = some first) (more : List Call) :
    c.first? w (h ++ more) = some first := by
  rw [first?, List.find?_append, ← first?, hfirst]
  rfl

private theorem Call.first?_snoc_of_shares {c e : Call} {w : LimitType} (hs : e.Shares c w)
    (h : List Call) : c.first? w (h ++ [e]) = some ((e.first? w h).getD e) := by
  have hsame : c.first? w h = e.first? w h := by
    simp only [first?]
    congr 1
    funext f
    exact decide_eq_decide.mpr ⟨fun hf => hf.trans hs.symm, fun hf => hf.trans hs⟩
  rw [first?, List.find?_append, ← first?, hsame, List.find?_singleton, decide_eq_true hs,
    if_pos rfl]
  cases e.first? w h <;> rfl

/-- A counter that an expected call sees ends a lifetime after the first allowed call of its window. -/
def Limiter.Dated (l : Limiter) (expected : Call → Prop) (w : LimitType) (now : Instant)
    (s : MemoryStore) (h : List Call) : Prop :=
  ∀ c g, expected c → now ≤ c.instant → live s.counters (c.key w) c.instant = some g →
    ∃ first, c.first? w h = some first ∧
      g.expiresAt = first.instant + Duration.ofSeconds (l.lifetime first w).toNat

/-- What the counters of a sound store say about the allowed calls. -/
structure Limiter.Holds (l : Limiter) (expected : Call → Prop) (now : Instant) (s : MemoryStore)
    (h : List Call) : Prop where
  serving : s.Serving
  tallied : ∀ w, Tallied expected w now s h
  dated : ∀ w, l.Dated expected w now s h

namespace Limiter

variable {l : Limiter} {expected : Call → Prop} {w : LimitType} {now later : Instant}
  {s : MemoryStore} {h : List Call} {c : Call} {calls : List Call}

/-- Over a broken store every call is told that it is out of order. -/
theorem call_of_broken (l : Limiter) (hs : s.Broken) (c : Call) :
    l.call s c =
      (.answer (.error (.unavailable (.unavailable "counter lock poisoned"))), s) := by
  have hzero : ¬l.timeout < Duration.zero := Nat.not_lt_zero _
  simp only [call, check, hs.available, hs.poisoned, settle, if_neg hzero, not_true_eq_false,
    if_false, if_true]

private theorem Breaks.broken (hbreaks : l.Breaks s c) (hs : s.Serving) :
    (l.call s c).2.Broken := by
  rw [hbreaks.2]
  exact ⟨hs.available, rfl⟩

private theorem Dated.mono (hd : l.Dated expected w now s h) (hle : now ≤ later) :
    l.Dated expected w later s h :=
  fun c g hc hl => hd c g hc (Nat.le_trans hle hl)

private theorem Dated.purged (hd : l.Dated expected w now s h) :
    l.Dated expected w now (s.purged now) h := by
  intro c g hc hl hlive
  rw [MemoryStore.purged, live_purge _ _ hl] at hlive
  exact hd c g hc hl hlive

private theorem tally_eq_zero_of_live_none (ht : Tallied expected w now s h) {e : Call}
    (he : expected e) (hn : now ≤ e.instant) (hnone : live s.counters (e.key w) e.instant = none) :
    e.tally w h = 0 := by
  have hshown := ht e he hn
  rw [hnone, Option.map_none, shown] at hshown
  split at hshown
  next hzero => exact hzero
  next => contradiction

/-- The first call of a window makes its counter, and those after it leave the deadline alone. -/
theorem Dated.counted (hd : l.Dated expected w now s h) (ht : Tallied expected w now s h) {e : Call}
    (he : expected e) (hn : now ≤ e.instant) {daily minute : Counter}
    (hx : (w.pick daily minute).expiresAt =
      ((live s.counters (e.key w) e.instant).map Counter.expiresAt).getD
        (e.instant + Duration.ofSeconds (l.lifetime e w).toNat)) :
    l.Dated expected w e.instant
      (s.counted (l.query e.organization e.quota e.time) e.instant daily minute) (h ++ [e]) := by
  intro c g hc hec hlive
  rw [live_counted_key hec rfl rfl] at hlive
  by_cases hs : e.Shares c w
  · rw [if_pos hs] at hlive
    split at hlive
    · cases hlive
      refine ⟨_, Call.first?_snoc_of_shares hs h, ?_⟩
      rw [hx]
      cases hold : live s.counters (e.key w) e.instant with
      | none =>
        rw [Call.first?_eq_none_of_tally (tally_eq_zero_of_live_none ht he hn hold)]
        rfl
      | some old =>
        obtain ⟨first, hfirst, hdue⟩ := hd e old he hn hold
        rw [hfirst]
        exact hdue
    · contradiction
  · rw [if_neg hs] at hlive
    obtain ⟨first, hfirst, hdue⟩ := hd c g hc (Nat.le_trans hn hec) hlive
    exact ⟨first, Call.first?_append hfirst [e], hdue⟩

private theorem Holds.mono (hh : l.Holds expected now s h) (hle : now ≤ later) :
    l.Holds expected later s h where
  serving := hh.serving
  tallied := fun w => (hh.tallied w).mono hle
  dated := fun w => (hh.dated w).mono hle

private theorem Holds.count_eq (hh : l.Holds expected now s h) (hc : expected c)
    (hn : now ≤ c.instant) :
    (fun w => (count s.counters (c.key w) c.instant).toNat) = fun w => c.tally w h :=
  funext fun w => (hh.tallied w).count_eq hc hn

private theorem Holds.call (hh : l.Holds expected now s h) (hout : ∀ w, l.Outlives expected w)
    (hdecides : l.Decides s c) (hc : expected c) (hn : now ≤ c.instant) :
    l.Holds expected c.instant (l.call s c).2
      (if (l.call s c).1.isAllowed then h ++ [c] else h) where
  serving := hdecides.serving hh.serving
  tallied := fun w => hdecides.tallied (hout w) (hh.tallied w) hc hn
  dated := by
    intro w
    obtain ⟨d, hd, -, ⟨ha, he⟩ | ⟨ha, daily, minute, he, hnext⟩⟩ := hdecides
    · rw [hd, he, Outcome.isAllowed, if_neg (by rw [ha]; decide)]
      exact ((hh.dated w).mono hn).purged
    · rw [hd, he, Outcome.isAllowed, if_pos ha]
      exact (hh.dated w).counted (hh.tallied w) hc hn (hnext w).2

/-- A limiter by itself is the one gateway that visits the counters. -/
theorem run_eq_visits (l : Limiter) (calls : List Call) :
    l.run calls = Visit.run (calls.map fun c => ⟨c, l⟩) := by
  rw [run, Visit.run, List.foldl_map]
  rfl

/-- The store after one more call. -/
theorem store_snoc (l : Limiter) (calls : List Call) (c : Call) :
    (l.run (calls ++ [c])).store = (l.call (l.run calls).store c).2 := by
  rw [run_snoc]
  rfl

/-- The allowed calls after one more call. -/
theorem admitted_snoc (l : Limiter) (calls : List Call) (c : Call) :
    (l.run (calls ++ [c])).admitted =
      if (l.call (l.run calls).store c).1.isAllowed then (l.run calls).admitted ++ [c]
      else (l.run calls).admitted := by
  rw [run_snoc]
  rfl

/-- After any calls the store of a limiter holds their history, or a call has broken off in it. -/
theorem holds_or_broken_run (hout : ∀ w, l.Outlives expected w) (calls : List Call)
    (hexp : ∀ c ∈ calls, expected c) (hord : Ordered calls) (hn : ∀ c ∈ calls, c.instant ≤ now) :
    l.Holds expected now (l.run calls).store (l.run calls).admitted ∨ (l.run calls).store.Broken := by
  induction calls using List.reverseRecOn generalizing now with
  | nil =>
    exact .inl ⟨serving_empty, fun w => tallied_empty expected w now,
      fun w c g _ _ hlive => by simp [run, live, MemoryStore.empty] at hlive⟩
  | append_singleton calls c ih =>
    obtain ⟨hpast, -, hle⟩ := List.pairwise_append.mp hord
    have hlast : c ∈ calls ++ [c] := List.mem_append_right _ (List.mem_singleton_self c)
    rw [store_snoc, admitted_snoc]
    rcases ih (fun e he => hexp e (List.mem_append_left _ he)) hpast
      (fun e he => hle e he c (List.mem_singleton_self c)) with hholds | hbroken
    · rcases l.decides_or_breaks hholds.serving c with hdecides | hbreaks
      · exact .inl ((hholds.call hout hdecides (hexp c hlast) (Nat.le_refl _)).mono (hn c hlast))
      · exact .inr (hbreaks.broken hholds.serving)
    · rw [l.call_of_broken hbroken]
      exact .inr hbroken

/-- A call that gets a decision has found the history of those before it. -/
theorem follows_of_answer (hout : ∀ w, l.Outlives expected w)
    (hexp : ∀ e ∈ calls ++ [c], expected e) (hord : Ordered (calls ++ [c])) {d : Decision}
    (hd : (l.call (l.run calls).store c).1 = .answer (.ok d)) :
    l.Holds expected c.instant (l.run calls).store (l.run calls).admitted ∧
      d.Follows c (fun w => c.tally w (l.run calls).admitted) := by
  obtain ⟨hpast, -, hle⟩ := List.pairwise_append.mp hord
  have hlast : c ∈ calls ++ [c] := List.mem_append_right _ (List.mem_singleton_self c)
  rcases holds_or_broken_run hout calls (fun e he => hexp e (List.mem_append_left _ he)) hpast
    (fun e he => hle e he c (List.mem_singleton_self c)) with hholds | hbroken
  · refine ⟨hholds, ?_⟩
    rcases l.decides_or_breaks hholds.serving c with ⟨d', hd', hf, -⟩ | hbreaks
    · rw [hd'] at hd
      cases hd
      rwa [hholds.count_eq (hexp c hlast) (Nat.le_refl _)] at hf
    · rw [hbreaks.2] at hd
      contradiction
  · rw [l.call_of_broken hbroken] at hd
    cases hd

/-- An allowed call has found both windows below their limits. -/
theorem lt_limit_of_isAllowed (hout : ∀ w, l.Outlives expected w)
    (hexp : ∀ e ∈ calls ++ [c], expected e) (hord : Ordered (calls ++ [c]))
    (ha : (l.call (l.run calls).store c).1.isAllowed = true) (w : LimitType) :
    c.tally w (l.run calls).admitted < c.limit w := by
  cases hd : (l.call (l.run calls).store c).1 with
  | deadlineOverflow =>
    rw [hd] at ha
    contradiction
  | answer r =>
    cases r with
    | error e =>
      rw [hd] at ha
      contradiction
    | ok d =>
      rw [hd] at ha
      exact (follows_of_answer hout hexp hord hd).2.lt_limit ha w

end Limiter

end TenantGateway.RateLimit
