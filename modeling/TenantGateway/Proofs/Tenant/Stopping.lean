import TenantGateway.Proofs.Tenant.Stoppage

/-! Stopping a refresh loop is atomic. The loop sees the request between cycles only, and a cycle can
be cut off only while it waits for its fetch, before it has written anything. So a cycle that is
under way when the loop is told to stop ends wholly or leaves nothing behind, whatever the grace. -/
namespace TenantGateway.Tenant.Stoppage

variable {s t u v : Stoppage} {e : Event} {c : StartedCycle}

/-- Between two states only others have changed the cache, and only by single entries. -/
structure OthersOnly (s t : Stoppage) : Prop where
  answer : t.answer = s.answer
  cache : ∃ later, t.others = s.others ++ later ∧ t.cache = later.foldl Cache.upsert s.cache
  generation : t.cache.generation = s.cache.generation
  stats : t.loop.refresher.stats = s.loop.refresher.stats
  fetches : t.fetches = s.fetches

private theorem OthersOnly.relooped (s : Stoppage) (loop : RefreshLoop)
    (hstats : loop.refresher.stats = s.loop.refresher.stats) (now : Instant) (call : StopCall) :
    OthersOnly s { s with loop, now, call } where
  answer := rfl
  cache := ⟨[], (List.append_nil _).symm, rfl⟩
  generation := rfl
  stats := hstats
  fetches := rfl

private theorem OthersOnly.trans (h : OthersOnly s t) (h' : OthersOnly t u) : OthersOnly s u where
  answer := h'.answer.trans h.answer
  cache := by
    obtain ⟨later, hothers, hcache⟩ := h.cache
    obtain ⟨last, hothers', hcache'⟩ := h'.cache
    refine ⟨later ++ last, ?_, ?_⟩
    · rw [hothers', hothers, List.append_assoc]
    · rw [hcache', hcache, List.foldl_append]
  generation := h'.generation.trans h.generation
  stats := h'.stats.trans h.stats
  fetches := h'.fetches.trans h.fetches

private theorem OthersOnly.move (hmove : Move s e t) (hstopping : s.loop.stopping = true)
    (hout : s.loop.inCycle = false) : OthersOnly s t ∧ t.loop.inCycle = false := by
  cases hmove with
  | idle | advanced | returned => exact ⟨.relooped s s.loop rfl _ _, hout⟩
  | requested => exact ⟨.relooped s s.loop.requestStop rfl _ _, hout⟩
  | stopped | aborted => exact ⟨.relooped s s.loop.stop rfl _ _, rfl⟩
  | broken => exact ⟨.relooped s { s.loop with phase := .broken } rfl _ _, rfl⟩
  | upserted e => exact ⟨⟨rfl, ⟨[e], rfl, rfl⟩, rfl, rfl, rfl⟩, hout⟩
  | began delay tick hbetween hgoing =>
    rw [hgoing] at hstopping
    cases hstopping
  | failed answer c tick hin | refreshed snapshot c tick entries hin =>
    rw [hin] at hout
    cases hout

/-- A cycle has left the cache that it found to others. -/
structure Untouched (c : StartedCycle) (t : Stoppage) : Prop where
  cache : t.cache = t.others.foldl Cache.upsert c.cache
  generation : t.cache.generation = c.cache.generation

/-- A cycle has counted the failure of its fetch, and has done nothing else. -/
structure Failed (c : StartedCycle) (t : Stoppage) : Prop extends Untouched c t where
  cause : c.timesOut = true ∨ ∃ e, t.answer = some (.error e)
  stats : t.loop.refresher.stats = c.refresher.fail.stats

/-- A cycle has had no answer, and has left everything as it found it. -/
structure Undone (c : StartedCycle) (t : Stoppage) : Prop extends Untouched c t where
  answer : t.answer = none
  stats : t.loop.refresher.stats = c.refresher.stats

/-- A cycle has put what its fetch gave in the place of the cache that it found, with what others
had set by then, and has counted its success. -/
structure Completed (c : StartedCycle) (t : Stoppage) : Prop where
  inTime : c.timesOut = false
  cache : ∃ (snapshot : Snapshot) (entries : Std.ExtTreeMap Fingerprint Entry) (time : Instant)
    (earlier later : List Entry),
    t.answer = some (.ok snapshot) ∧ c.due ≤ time ∧ t.others = earlier ++ later ∧
    (∀ f, entries[f]? = snapshot[f]?.map fun r => Entry.given c.refresher.ttlSeconds f r time) ∧
    t.cache = later.foldl Cache.upsert ((earlier.foldl Cache.upsert c.cache).replaceAll entries) ∧
    t.loop.refresher.stats = (c.refresher.succeed
      ((earlier.foldl Cache.upsert c.cache).difference snapshot) time).stats
  generation : t.cache.generation = c.cache.generation + 1

private theorem Untouched.later (h : Untouched c s) (hothers : OthersOnly s t) : Untouched c t where
  cache := by
    obtain ⟨later, hlater, hcache⟩ := hothers.cache
    rw [hcache, hlater, h.cache, List.foldl_append]
  generation := hothers.generation.trans h.generation

private theorem Completed.later (h : Completed c s) (hothers : OthersOnly s t) : Completed c t where
  inTime := h.inTime
  cache := by
    obtain ⟨snapshot, entries, time, earlier, late, hanswer, hdue, hsplit, hentries, hcache,
      hstats⟩ := h.cache
    obtain ⟨later, hlater, hcache'⟩ := hothers.cache
    refine ⟨snapshot, entries, time, earlier, late ++ later, hothers.answer.trans hanswer, hdue, ?_,
      hentries, ?_, hothers.stats.trans hstats⟩
    · rw [hlater, hsplit, List.append_assoc]
    · rw [hcache', hcache, List.foldl_append]
  generation := hothers.generation.trans h.generation

private theorem Failed.later (h : Failed c s) (hothers : OthersOnly s t) : Failed c t where
  toUntouched := h.toUntouched.later hothers
  cause := hothers.answer ▸ h.cause
  stats := hothers.stats.trans h.stats

private theorem Undone.later (h : Undone c s) (hothers : OthersOnly s t) : Undone c t where
  toUntouched := h.toUntouched.later hothers
  answer := hothers.answer.trans h.answer
  stats := hothers.stats.trans h.stats

private theorem Underway.untouched (h : Underway c s) : Untouched c s where
  cache := h.cache
  generation := by rw [h.cache, Cache.generation_foldl_upsert]

/-- Where a cycle has come to that is under way when the call is made. -/
inductive Course (prompt : Prop) (deadline : Instant) (c : StartedCycle) (s : Stoppage) : Prop where
  | underway (inside : s.loop.inCycle = true) (underway : Underway c s)
      (early : prompt → s.now ≤ c.due)
  | finished (outside : s.loop.inCycle = false)
      (ended : Completed c s ∨ Failed c s ∨ Undone c s ∧ (prompt → deadline ≤ c.due))

variable {prompt : Prop} {deadline : Instant}

private theorem Course.move (h : Course prompt deadline c s) (hmove : Move s e t)
    (hstopping : s.loop.stopping = true) (hcall : s.call = .waiting deadline ∨ s.call = .returned)
    (hprompt : prompt → s.Prompt e) : Course prompt deadline c t := by
  cases h with
  | finished outside ended =>
    obtain ⟨hothers, hout⟩ := OthersOnly.move hmove hstopping outside
    refine .finished hout ?_
    rcases ended with hcompleted | hfailed | ⟨hundone, hlate⟩
    · exact .inl (hcompleted.later hothers)
    · exact .inr (.inl (hfailed.later hothers))
    · exact .inr (.inr ⟨hundone.later hothers, hlate⟩)
  | underway inside hunder hearly =>
    cases hmove with
    | idle => exact .underway inside hunder hearly
    | advanced span =>
      exact .underway inside (hunder.recalled _ rfl _ _) fun h => hprompt h inside c hunder.cycle
    | upserted e => exact .underway inside (hunder.upsert e) hearly
    | stopped delay hbetween | began delay tick hbetween =>
      rw [RefreshLoop.inCycle_of_isBetween hbetween] at inside
      cases inside
    | broken delay hfresh =>
      rw [RefreshLoop.inCycle_of_isBetween (.inl hfresh)] at inside
      cases inside
    | failed answer c' tick hin hcycle hcause =>
      obtain rfl : c' = c := Option.some.inj (hcycle.symm.trans hunder.cycle)
      exact .finished rfl (.inr (.inl {
        cache := hunder.cache
        generation := hunder.untouched.generation
        cause := hcause.imp_right fun ⟨e, he⟩ => ⟨e, congrArg some he⟩
        stats := by
          simp only [hunder.refresher]
          rfl }))
    | refreshed snapshot c' tick entries hin hcycle hdue htime hentries =>
      obtain rfl : c' = c := Option.some.inj (hcycle.symm.trans hunder.cycle)
      have httl : s.loop.refresher.ttlSeconds = c'.refresher.ttlSeconds :=
        congrArg (·.ttlSeconds) hunder.refresher
      exact .finished rfl (.inl {
        inTime := htime
        cache := by
          rw [httl] at hentries
          refine ⟨snapshot, entries, s.now, s.others, [], rfl, hdue, (List.append_nil _).symm,
            hentries, ?_, ?_⟩
          · rw [← hunder.cache]
            rfl
          · simp only [← hunder.cache, hunder.refresher]
            rfl
        generation := congrArg (· + 1) hunder.untouched.generation })
    | requested grace hunmade =>
      rcases hcall with hcall | hcall <;> rw [hunmade] at hcall <;> cases hcall
    | returned e deadline' hwaiting hended =>
      rw [RefreshLoop.inCycle_of_hasEnded hended] at inside
      cases inside
    | aborted deadline' hwaiting hexpired =>
      obtain rfl : deadline' = deadline := by
        rcases hcall with hcall | hcall <;> rw [hwaiting] at hcall <;> cases hcall
        rfl
      have hundone : Undone c { s with loop := s.loop.stop, call := .returned } := {
        cache := hunder.cache
        generation := hunder.untouched.generation
        answer := hunder.answer
        stats := by
          simp only [RefreshLoop.stop, hunder.refresher]
          rfl }
      exact .finished rfl (.inr (.inr ⟨hundone, fun h => Nat.le_trans hexpired (hearly h)⟩))

/-- How a run goes on from the state in which the call is made. -/
structure Following (prompt : Prop) (u : Stoppage) (deadline : Instant) (t : Stoppage) : Prop where
  call : t.call = .waiting deadline ∨ t.call = .returned
  stopping : t.loop.stopping = true
  fetches : t.fetches = u.fetches
  apart : u.loop.inCycle = false → OthersOnly u t ∧ t.loop.inCycle = false
  course : u.loop.inCycle = true → ∃ c, u.cycle = some c ∧ Course prompt deadline c t

private theorem Following.request (hsound : Sound u) (hunmade : u.call = .unmade) (grace : Duration)
    (hprompt : prompt → u.loop.inCycle = true → ∀ c, u.cycle = some c → u.now ≤ c.due) :
    Following prompt u (u.now + grace) (u.step (.requestStop grace)) := by
  simp only [step, requestStop, hunmade]
  exact {
    call := .inl rfl
    stopping := rfl
    fetches := rfl
    apart := fun hout => ⟨.relooped u u.loop.requestStop rfl _ _, hout⟩
    course := by
      intro hin
      obtain ⟨c, hc⟩ := hsound.underway hin
      exact ⟨c, hc.cycle, .underway hin (hc.recalled u.loop.requestStop rfl _ _)
        fun h => hprompt h hin c hc.cycle⟩ }

private theorem Following.move (h : Following prompt u deadline s) (hmove : Move s e t)
    (hprompt : prompt → s.Prompt e) : Following prompt u deadline t where
  call := by
    cases hmove with
    | requested grace hunmade =>
      rcases h.call with hcall | hcall <;> rw [hunmade] at hcall <;> cases hcall
    | returned | aborted => exact .inr rfl
    | _ => exact h.call
  stopping := by
    cases hmove with
    | requested => rfl
    | _ => exact h.stopping
  fetches := by
    cases hmove with
    | began delay tick hbetween hgoing =>
      rw [h.stopping] at hgoing
      cases hgoing
    | _ => exact h.fetches
  apart := by
    intro hout
    obtain ⟨hothers, hout⟩ := h.apart hout
    obtain ⟨hothers', hout'⟩ := OthersOnly.move hmove h.stopping hout
    exact ⟨hothers.trans hothers', hout'⟩
  course := by
    intro hin
    obtain ⟨c, hc, hcourse⟩ := h.course hin
    exact ⟨c, hc, hcourse.move hmove h.stopping h.call hprompt⟩

private theorem Following.foldl {events : List Event} (h : Following prompt u deadline s)
    (hlasting : Throughout Lasting s events) (hprompt : prompt → Throughout Prompt s events) :
    Following prompt u deadline (events.foldl step s) := by
  induction events generalizing s with
  | nil => exact h
  | cons e events ih =>
    exact ih (h.move (move_step hlasting.1) fun hp => (hprompt hp).1) hlasting.2
      fun hp => (hprompt hp).2

/-- A cycle that waits has not missed the end of its fetch. -/
def Early (s : Stoppage) : Prop := s.loop.inCycle = true → ∀ c, s.cycle = some c → s.now ≤ c.due

private theorem Early.move (h : Early s) (hmove : Move s e t) (hprompt : s.Prompt e) : Early t := by
  cases hmove with
  | advanced span => exact hprompt
  | began delay tick hbetween hgoing =>
    intro _ c hc
    cases hc
    exact Nat.le_add_right _ _
  | stopped | broken | failed | refreshed | aborted => exact nofun
  | idle | upserted | requested | returned => exact h

private theorem Early.foldl {events : List Event} (h : Early s)
    (hlasting : Throughout Lasting s events) (hprompt : Throughout Prompt s events) :
    Early (events.foldl step s) := by
  induction events generalizing s with
  | nil => exact h
  | cons e events ih =>
    exact ih (h.move (move_step hlasting.1) hprompt.1) hlasting.2 hprompt.2

private theorem lasting_of_outside (hout : s.loop.inCycle = false) (e : Event) : s.Lasting e := by
  cases e with
  | fetched answer =>
    cases answer with
    | error e => trivial
    | ok snapshot => exact fun hin => nomatch hout.symm.trans hin
  | _ => trivial

private theorem Move.ended (hmove : Move s e t) (hended : s.loop.hasEnded = true)
    (hcall : s.call = .returned) : t.loop = s.loop ∧ t.call = .returned := by
  cases hmove with
  | idle | advanced | upserted => exact ⟨rfl, hcall⟩
  | returned => exact ⟨rfl, rfl⟩
  | stopped delay hbetween | began delay tick hbetween =>
    rw [RefreshLoop.hasEnded_of_isBetween hbetween] at hended
    cases hended
  | broken delay hfresh =>
    rw [RefreshLoop.hasEnded_of_isBetween (.inl hfresh)] at hended
    cases hended
  | failed answer c tick hin | refreshed snapshot c tick entries hin =>
    rw [RefreshLoop.inCycle_of_hasEnded hended] at hin
    cases hin
  | requested grace hunmade =>
    rw [hcall] at hunmade
    cases hunmade
  | aborted deadline hwaiting =>
    rw [hcall] at hwaiting
    cases hwaiting

private theorem Sound.final (h : Sound s) (hcall : s.call = .returned) (more : List Event) :
    (more.foldl step s).loop = s.loop ∧ OthersOnly s (more.foldl step s) := by
  induction more generalizing s with
  | nil => exact ⟨rfl, .relooped s s.loop rfl _ _⟩
  | cons e more ih =>
    have hended := h.returned hcall
    have hout := RefreshLoop.inCycle_of_hasEnded hended
    have hstopping := h.stopping (by rw [hcall]; nofun)
    have hmove := move_step (lasting_of_outside hout e)
    have hothers := (OthersOnly.move hmove hstopping hout).1
    obtain ⟨hloop, hreturned⟩ := hmove.ended hended hcall
    obtain ⟨hloop', hrest⟩ := ih (h.move hmove) hreturned
    exact ⟨hloop'.trans hloop, hothers.trans hrest⟩

/-- A cycle is not cut off whose fetch ends before the deadline. -/
def Spared (u v : Stoppage) (deadline : Instant) : Prop :=
  u.loop.inCycle = true → v.call = .returned → ∀ c, u.cycle = some c → c.due < deadline →
    Completed c v ∨ Failed c v

private theorem Sound.stopped (h : Sound s) (hcall : s.call = .returned) :
    s.loop.refresher.state = .stopped ∨
      s.loop.period.nanos = 0 ∧ s.loop.phase = .broken ∧ s.fetches = 0 := by
  have hended := h.returned hcall
  simp only [RefreshLoop.hasEnded, Bool.or_eq_true, decide_eq_true_eq] at hended
  rcases hended with hended | hbroken
  · exact .inl (h.ended hended)
  · obtain ⟨hperiod, hfetches⟩ := h.broken hbroken
    exact .inr ⟨hperiod, hbroken, hfetches⟩

private theorem Following.finished (h : Following prompt u deadline v) (hsound : Sound v)
    (hin : u.loop.inCycle = true) (hcall : v.call = .returned) :
    ∃ c, u.cycle = some c ∧
      (Completed c v ∨ Failed c v ∨ Undone c v ∧ (prompt → deadline ≤ c.due)) := by
  obtain ⟨c, hc, hcourse⟩ := h.course hin
  cases hcourse with
  | finished _ ended => exact ⟨c, hc, ended⟩
  | underway inside =>
    rw [RefreshLoop.inCycle_of_hasEnded (hsound.returned hcall)] at inside
    cases inside

private theorem Following.spared (h : Following prompt u deadline v) (hsound : Sound v)
    (hprompt : prompt) : Spared u v deadline := by
  intro hin hcall c hc hdue
  obtain ⟨c', hc', hended⟩ := h.finished hsound hin hcall
  obtain rfl : c' = c := Option.some.inj (hc'.symm.trans hc)
  rcases hended with hcompleted | hfailed | ⟨-, hlate⟩
  · exact .inl hcompleted
  · exact .inr hfailed
  · exact absurd (hlate hprompt) (Nat.not_le_of_lt hdue)

end TenantGateway.Tenant.Stoppage
