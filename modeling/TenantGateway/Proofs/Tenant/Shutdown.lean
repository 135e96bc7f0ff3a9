import TenantGateway.Proofs.Tenant.Sessions
import TenantGateway.Proofs.Tenant.Stopping

/-! The shutdown of a session on a virtual clock is a stoppage of its loop: the loop runs on until the
grace is over, and then the call joins it or cuts it off. -/
namespace TenantGateway.Simulation
open Tenant

namespace TenantSession

/-- A stoppage has the loop of the session. The fetch of its cycle is under way and ends no sooner in
the session, or it is about to begin and will take `delay`. -/
structure Tracks (delay : Duration) (s : TenantSession) (p : Stoppage) : Prop where
  custody : s.custody = .looping p.loop
  cache : s.cache = p.cache
  now : s.now = p.now
  idle : p.loop.inCycle = false → s.inFlight = none
  fetching : p.loop.inCycle = true → ∃ c, p.cycle = some c ∧
    c.refresher.fetchTimeout = p.loop.refresher.fetchTimeout ∧
    (s.inFlight = none ∧ c.began ≤ s.now ∧ c.delay = delay ∨
      ∃ f, s.inFlight = some f ∧ c.due ≤ f.due ∧ f.timesOut = c.timesOut)

/-- Some stoppage among those in question has come to where the session is, however long a fetch will
take that is about to begin. -/
def Matched (R : Stoppage → Prop) (s : TenantSession) : Prop :=
  ∀ delay, ∃ p, R p ∧ s.Tracks delay p

/-- The stoppages in question go on while nothing happens to their call. -/
def Closed (R : Stoppage → Prop) : Prop :=
  ∀ p e, R p → (p.step e).call = p.call → R (p.step e)

variable {R : Stoppage → Prop} {s t : TenantSession} {p : Stoppage} {delay : Duration}

private theorem Matched.follow (h : Matched R s) (hclosed : Closed R)
    (hnext : ∀ delay p, s.Tracks delay p → ∃ e, t.Tracks delay (p.step e) ∧ (p.step e).call = p.call) :
    Matched R t := by
  intro delay
  obtain ⟨p, hp, htracks⟩ := h delay
  obtain ⟨e, htracks', hcall⟩ := hnext delay p htracks
  exact ⟨p.step e, hclosed p e hp hcall, htracks'⟩

private theorem Matched.unseen (h : Matched R s)
    (hnext : ∀ delay p, s.Tracks delay p → t.Tracks delay p) : Matched R t := by
  intro delay
  obtain ⟨p, hp, htracks⟩ := h delay
  exact ⟨p, hp, hnext delay p htracks⟩

private theorem fetchTimeout_turn {l : RefreshLoop} (now : Instant) :
    (l.turn now).refresher.fetchTimeout = l.refresher.fetchTimeout := by
  rcases l.turn_cases now with hsame | ⟨-, ⟨-, hstop⟩ | ⟨-, -, hbreak⟩ | ⟨-, tick, hbegin⟩⟩
  · rw [hsame]
  · rw [hstop]
    rfl
  · rw [hbreak]
  · rw [hbegin]
    rfl

private theorem Tracks.turn (h : s.Tracks delay p) (hout : p.loop.inCycle = false) :
    Tracks delay { s with custody := .looping (p.loop.turn s.now) } (p.step (.turn delay)) := by
  simp only [Stoppage.step, Stoppage.turn, h.now, hout]
  by_cases hin : (p.loop.turn p.now).inCycle = true
  · rw [if_pos ⟨hin, Bool.false_ne_true⟩]
    exact {
      custody := rfl
      cache := h.cache
      now := rfl
      idle := fun hnot => absurd (hin.symm.trans hnot) (by decide)
      fetching := fun _ =>
        ⟨_, rfl, (fetchTimeout_turn _).symm, .inl ⟨h.idle hout, Nat.le_refl _, rfl⟩⟩ }
  · rw [if_neg fun h => hin h.1]
    exact {
      custody := rfl
      cache := h.cache
      now := rfl
      idle := fun _ => h.idle hout
      fetching := fun hnot => absurd hnot hin }

private theorem due_fetchOf {c : StartedCycle} {r : Refresher}
    (htimeout : c.refresher.fetchTimeout = r.fetchTimeout) (hbegan : c.began ≤ s.now)
    (hdelay : c.delay = s.directory.delay) :
    c.due ≤ (s.fetchOf r).due ∧ (s.fetchOf r).timesOut = c.timesOut := by
  simp only [fetchOf, StartedCycle.due, StartedCycle.timesOut, htimeout, hdelay]
  by_cases hlong : r.fetchTimeout < s.directory.delay
  · simp only [hlong, if_true, decide_true, and_true]
    exact Nat.add_le_add_right hbegan _
  · simp only [hlong, if_false, decide_false, Bool.false_eq_true, and_true]
    exact Nat.add_le_add_right hbegan _

private theorem Tracks.begin_fetch (h : s.Tracks s.directory.delay p) (hin : p.loop.inCycle = true)
    (hnone : s.inFlight = none) :
    Tracks delay { s with inFlight := some (s.fetchOf p.loop.refresher) } p where
  custody := h.custody
  cache := h.cache
  now := h.now
  idle := fun hout => absurd (hin.symm.trans hout) (by decide)
  fetching := by
    intro _
    obtain ⟨c, hc, htimeout, ⟨-, hbegan, hdelay⟩ | ⟨f, hf, -⟩⟩ := h.fetching hin
    · exact ⟨c, hc, htimeout, .inr ⟨_, rfl, due_fetchOf htimeout hbegan hdelay⟩⟩
    · rw [hnone] at hf
      cases hf

private theorem outcome_answer {c : StartedCycle} {f : Fetch}
    (htimeout : c.refresher.fetchTimeout = p.loop.refresher.fetchTimeout)
    (htimesOut : f.timesOut = c.timesOut) :
    ∃ directory, s.answer p.loop.refresher f =
      (c.outcome s.directory.fetchAll.1, { s with directory }) := by
  unfold answer StartedCycle.outcome
  cases hlong : c.timesOut with
  | true => exact ⟨s.directory, by simp only [htimesOut, hlong, htimeout, if_true]⟩
  | false =>
    exact ⟨s.directory.fetchAll.2, by
      simp only [htimesOut, hlong, Bool.false_eq_true, if_false]⟩

private theorem Tracks.end_fetch (h : s.Tracks delay p) (hin : p.loop.inCycle = true) {f : Fetch}
    (hf : s.inFlight = some f) (hdue : f.due ≤ s.now) :
    ∃ answer directory, s.answer p.loop.refresher f = (answer, { s with directory }) ∧
      Tracks delay
        { s with
          directory
          custody := .looping (p.loop.settle s.cache s.now answer).1
          cache := (p.loop.settle s.cache s.now answer).2.1
          inFlight := none }
        (p.step (.fetched s.directory.fetchAll.1)) := by
  obtain ⟨c, hc, htimeout, ⟨hnone, -⟩ | ⟨f', hf', hlater, htimesOut⟩⟩ := h.fetching hin
  · rw [hf] at hnone
    cases hnone
  · obtain rfl : f = f' := Option.some.inj (hf.symm.trans hf')
    obtain ⟨directory, hanswer⟩ := outcome_answer (s := s) htimeout htimesOut
    refine ⟨_, directory, hanswer, ?_⟩
    have hended : c.due ≤ p.now := h.now ▸ Nat.le_trans hlater hdue
    simp only [Stoppage.step, Stoppage.fetched, hc, if_pos (And.intro hin hended), h.cache, h.now]
    exact {
      custody := rfl
      cache := rfl
      now := rfl
      idle := fun _ => rfl
      fetching := fun hnot =>
        absurd ((RefreshLoop.inCycle_settle ..).symm.trans hnot) Bool.false_ne_true }

private theorem Tracks.step? (h : s.Tracks delay p) (hstep : s.step? = some t) :
    t.now = s.now ∧
      ((∃ e, t.Tracks delay (p.step e) ∧ (p.step e).call = p.call) ∨
        ∃ l, s.custody = .looping l ∧ l.inCycle = true ∧ s.inFlight = none ∧
          t = { s with inFlight := some (s.fetchOf l.refresher) }) := by
  obtain ⟨l, hlooping, ⟨hout, rfl⟩ | ⟨hin, hnone, rfl⟩ |
      ⟨f, answer, directory, hin, hf, hdue, hanswer, rfl⟩⟩ := step?_cases hstep
  all_goals
    refine ⟨rfl, ?_⟩
    obtain rfl : p.loop = l := Custody.looping.inj (h.custody.symm.trans hlooping)
  · exact .inl ⟨_, h.turn hout, Stoppage.call_turn _ _⟩
  · exact .inr ⟨p.loop, h.custody, hin, hnone, rfl⟩
  · obtain ⟨answer', directory', hanswer', htracks⟩ := h.end_fetch hin hf hdue
    rw [hanswer] at hanswer'
    cases hanswer'
    exact .inl ⟨_, { htracks with }, Stoppage.call_fetched _ _⟩

private theorem Matched.step? (h : Matched R s) (hclosed : Closed R) (hstep : s.step? = some t) :
    Matched R t := by
  intro delay
  obtain ⟨p, hp, htracks⟩ := h delay
  obtain ⟨-, ⟨e, htracks', hcall⟩ | ⟨l, hcustody, hin, hnone, rfl⟩⟩ := htracks.step? hstep
  · exact ⟨p.step e, hclosed p e hp hcall, htracks'⟩
  · obtain ⟨q, hq, htracks'⟩ := h s.directory.delay
    obtain rfl : q.loop = l := Custody.looping.inj (htracks'.custody.symm.trans hcustody)
    exact ⟨q, hq, htracks'.begin_fetch hin hnone⟩

private theorem Matched.now_step? (h : Matched R s) (hstep : s.step? = some t) : t.now = s.now := by
  obtain ⟨p, -, htracks⟩ := h .zero
  exact (htracks.step? hstep).1

private theorem Matched.advance (h : Matched R s) (hclosed : Closed R) {time : Instant}
    (hle : s.now ≤ time) : Matched R { s with now := time } := by
  refine h.follow hclosed fun delay p htracks => ⟨.advance (time.since p.now), ?_, rfl⟩
  have hnow : p.now + time.since p.now = time := Instant.add_since (htracks.now ▸ hle)
  simp only [Stoppage.step, hnow]
  exact {
    custody := htracks.custody
    cache := htracks.cache
    now := rfl
    idle := htracks.idle
    fetching := by
      intro hin
      obtain ⟨c, hc, htimeout, ⟨hnone, hbegan, hdelay⟩ | hflight⟩ := htracks.fetching hin
      · exact ⟨c, hc, htimeout, .inl ⟨hnone, Nat.le_trans hbegan hle, hdelay⟩⟩
      · exact ⟨c, hc, htimeout, .inr hflight⟩ }

private theorem Matched.runWhile (hclosed : Closed R) {soon : Instant → Bool} {target : Instant}
    (hsoon : ∀ due, soon due → due ≤ target) (fuel : Nat) :
    ∀ {s : TenantSession}, Matched R s → s.now ≤ target →
      Matched R (s.runWhile soon fuel) ∧ (s.runWhile soon fuel).now ≤ target := by
  induction fuel with
  | zero =>
    intro s h hle
    exact ⟨h, hle⟩
  | succ fuel ih =>
    intro s h hle
    unfold TenantSession.runWhile
    cases hstep : s.step? with
    | some t => exact ih (h.step? hclosed hstep) (h.now_step? hstep ▸ hle)
    | none =>
      cases hdue : s.due? with
      | none => exact ⟨h, hle⟩
      | some due =>
        by_cases hnext : soon due
        · simp only [hnext, if_true]
          exact ih (h.advance hclosed (now_le_due hstep hdue)) (hsoon due hnext)
        · simp only [hnext]
          exact ⟨h, hle⟩

private theorem Matched.runBefore (h : Matched R s) (hclosed : Closed R) {target : Instant}
    (hle : s.now ≤ target) : Matched R (s.runBefore target) := by
  have hsoon : ∀ due : Instant, decide (due < target) = true → due ≤ target :=
    fun due hdue => Nat.le_of_lt (of_decide_eq_true hdue)
  obtain ⟨hran, hnow⟩ := Matched.runWhile hclosed hsoon (s.fuel target) h hle
  exact hran.advance hclosed hnow

private theorem Matched.runThrough (h : Matched R s) (hclosed : Closed R) {target : Instant}
    (hle : s.now ≤ target) : Matched R (s.runThrough target) := by
  have hsoon : ∀ due : Instant, decide (due ≤ target) = true → due ≤ target :=
    fun due hdue => of_decide_eq_true hdue
  obtain ⟨hran, hnow⟩ := Matched.runWhile hclosed hsoon (s.fuel target) h hle
  exact hran.advance hclosed hnow

private theorem Matched.wait (h : Matched R s) (hclosed : Closed R) (span : Duration) :
    Matched R (s.wait span) := by
  unfold TenantSession.wait
  split
  · exact h
  · exact h.runBefore hclosed (Nat.le_add_right _ _)

private theorem Matched.redirect (h : Matched R s) (directory : SlowDirectory) :
    Matched R { s with directory } := h.unseen fun _ _ htracks => { htracks with }

private theorem Matched.report (h : Matched R s) (ms : List Measurement) :
    Matched R (s.report ms) := h.unseen fun _ _ htracks => { htracks with }

private theorem Matched.settle (h : Matched R s) (hclosed : Closed R) (f : Fingerprint)
    (stale : Option Entry) (answer : Except DirectoryError (Option Record)) :
    Matched R { s with cache := (s.cache.settle s.ttlSeconds f stale s.now answer).2 } := by
  rcases s.cache.settle_cases s.ttlSeconds f stale s.now answer with
    ⟨r, -, hsettle⟩ | ⟨r, -, -, hsettle⟩ | ⟨-, hsettle⟩ | ⟨error, e, -, -, hsettle⟩ |
    ⟨error, -, -, hsettle⟩
  · rw [hsettle]
    exact h.follow hclosed fun delay p htracks =>
      ⟨.upsert _, { htracks with cache := congrArg (Cache.upsert · _) htracks.cache }, rfl⟩
  all_goals
    rw [hsettle]
    exact h

private theorem Matched.authenticate (h : Matched R s) (hclosed : Closed R)
    (credential : Option String) : Matched R (s.authenticate credential).2 := by
  have hran := h.runThrough hclosed (Nat.le_refl s.now.nanos)
  simp only [TenantSession.authenticate]
  generalize s.runThrough s.now = u at hran
  cases credential with
  | none => exact hran.report _
  | some credential =>
    dsimp only
    generalize u.cache.inquire credential u.now = looked
    obtain ⟨next, ms⟩ := looked
    cases next with
    | done verdict => exact hran.report ms
    | ask f stale =>
      dsimp only
      have hwaited : Matched R
          ((u.report ms).runThrough ((u.report ms).now + (u.report ms).directory.delay)) :=
        (hran.report ms).runThrough hclosed (Nat.le_add_right _ _)
      generalize (u.report ms).runThrough ((u.report ms).now + (u.report ms).directory.delay) = v
        at hwaited ⊢
      exact ((hwaited.settle hclosed f stale _).redirect _).report _

private theorem Matched.custody (h : Matched R s) : ∃ l, s.custody = .looping l := by
  obtain ⟨p, -, htracks⟩ := h .zero
  exact ⟨p.loop, htracks.custody⟩

private theorem Matched.refresh (h : Matched R s) : s.refresh.2 = s := by
  obtain ⟨l, hlooping⟩ := h.custody
  simp only [TenantSession.refresh, hlooping]

private theorem Matched.startLoop (h : Matched R s) (period : Duration) :
    s.startLoop period = s := by
  obtain ⟨l, hlooping⟩ := h.custody
  simp only [TenantSession.startLoop, hlooping]

private theorem Matched.awaitCycle (hclosed : Closed R) (fuel : Nat) :
    ∀ {s : TenantSession}, Matched R s → Matched R (s.awaitCycle fuel) := by
  induction fuel with
  | zero => exact fun h => h
  | succ fuel ih =>
    intro s h
    unfold TenantSession.awaitCycle
    split
    next l hlooping =>
      split
      next => exact h
      next =>
        split
        next t hstep => exact ih (h.step? hclosed hstep)
        next due hstep hdue => exact ih (h.advance hclosed (now_le_due hstep hdue))
        next => exact h
    next => exact h

private theorem Matched.perform (h : Matched R s) (hclosed : Closed R) {deed : Deed}
    (hdeed : ∀ grace, deed ≠ .shutdown grace) : Matched R (s.perform deed) := by
  cases deed with
  | wait span => exact h.wait hclosed span
  | redirect directory => exact h.redirect directory
  | authenticate credential => exact h.authenticate hclosed credential
  | refresh =>
    rw [TenantSession.perform, h.refresh]
    exact h
  | startLoop period =>
    rw [TenantSession.perform, h.startLoop]
    exact h
  | awaitCycle fuel => exact h.awaitCycle hclosed fuel
  | shutdown grace => exact absurd rfl (hdeed grace)

private theorem Matched.foldl (hclosed : Closed R) {deeds : List Deed} :
    ∀ {s : TenantSession}, Matched R s → (∀ d ∈ deeds, ∀ grace, d ≠ .shutdown grace) →
      Matched R (deeds.foldl TenantSession.perform s) := by
  induction deeds with
  | nil => exact fun h _ => h
  | cons deed deeds ih =>
    intro s h hdeeds
    exact ih (h.perform hclosed (hdeeds deed List.mem_cons_self))
      fun d hd => hdeeds d (List.mem_cons_of_mem _ hd)

/-- A stoppage that runs as `run` has it, up to the call. -/
def Uncalled (r : Refresher) (c : Cache) (period : Duration) (p : Stoppage) : Prop :=
  ∃ before, p = Stoppage.run r c period before ∧ p.call = .unmade

variable {r : Refresher} {c : Cache} {period grace : Duration}

private theorem closed_uncalled : Closed (Uncalled r c period) := by
  rintro p e ⟨before, rfl, hcall⟩ hsame
  exact ⟨before ++ [e], (Stoppage.run_snoc ..).symm, hsame.trans hcall⟩

private theorem matched_startLoop (hcustody : s.custody = .onDemand r) (hidle : s.inFlight = none)
    (period : Duration) : Matched (Uncalled r s.cache period) (s.startLoop period) := by
  intro delay
  have hnow : Instant.start + s.now.since .start = s.now := Instant.add_since (Nat.zero_le _)
  refine ⟨_, ⟨[.advance (s.now.since .start)], rfl, rfl⟩, ?_⟩
  simp only [TenantSession.startLoop, hcustody, Stoppage.run, List.foldl_cons, List.foldl_nil,
    Stoppage.step, Stoppage.open_, hnow]
  exact {
    custody := rfl
    cache := rfl
    now := rfl
    idle := fun _ => hidle
    fetching := fun hin => absurd hin Bool.false_ne_true }

/-- A stoppage whose call is made where the session is. -/
def Called (r : Refresher) (c : Cache) (period grace : Duration) (s : TenantSession)
    (call : StopCall) (p : Stoppage) : Prop :=
  ∃ before after, (Stoppage.run r c period before).call = .unmade ∧
    (Stoppage.run r c period before).cache = s.cache ∧
    (Stoppage.run r c period before).now = s.now ∧
    p = Stoppage.run r c period (before ++ .requestStop grace :: after) ∧ p.call = call

private theorem closed_called {call : StopCall} : Closed (Called r c period grace s call) := by
  rintro p e ⟨before, after, hunmade, hcache, hnow, rfl, hcall⟩ hsame
  refine ⟨before, after ++ [e], hunmade, hcache, hnow, ?_, hsame.trans hcall⟩
  rw [← Stoppage.run_snoc, List.append_assoc, List.cons_append]

private theorem Matched.ask (h : Matched (Uncalled r c period) s) {l : RefreshLoop}
    (hlooping : s.custody = .looping l) (grace : Duration) :
    Matched (Called r c period grace s (.waiting (s.now + grace)))
      { s with custody := .looping l.requestStop } := by
  intro delay
  obtain ⟨p, ⟨before, rfl, hunmade⟩, htracks⟩ := h delay
  obtain rfl := Custody.looping.inj (htracks.custody.symm.trans hlooping)
  refine ⟨_, ⟨before, [], hunmade, htracks.cache.symm, htracks.now.symm, rfl, ?_⟩, ?_⟩
  all_goals
    rw [Stoppage.run_snoc]
    simp only [Stoppage.step, Stoppage.requestStop, hunmade]
  · rw [htracks.now]
  · exact { htracks with custody := rfl }

private theorem Tracks.finish (h : s.Tracks delay p) {deadline : Instant}
    (hcall : p.call = .waiting deadline) (hle : s.now ≤ deadline) :
    ∃ more : List Stoppage.Event, (more.foldl Stoppage.step p).call = .returned ∧
      (more.foldl Stoppage.step p).cache = s.cache ∧
      (more.foldl Stoppage.step p).now = if p.loop.hasEnded then s.now else deadline := by
  by_cases hended : p.loop.hasEnded = true
  · refine ⟨[.join], ?_⟩
    simp only [List.foldl_cons, List.foldl_nil, Stoppage.step, Stoppage.join, hcall, hended, if_true]
    exact ⟨trivial, h.cache.symm, h.now.symm⟩
  · have hnow : p.now + deadline.since p.now = deadline := Instant.add_since (h.now ▸ hle)
    have hpast : deadline ≤ deadline := Nat.le_refl _
    refine ⟨[.advance (deadline.since p.now), .expire], ?_⟩
    simp only [List.foldl_cons, List.foldl_nil, Stoppage.step, Stoppage.expire, hcall, hnow, hpast,
      hended, if_true]
    exact ⟨trivial, h.cache.symm, rfl⟩

/-- A stoppage does what the shutdown of a session does, from where the session is. -/
def Stopped (r : Refresher) (c : Cache) (period grace : Duration) (s t : TenantSession) : Prop :=
  ∃ p, Called r c period grace s .returned p ∧ p.cache = t.cache ∧ p.now = t.now

private theorem Matched.finish {u : TenantSession} {deadline : Instant}
    (h : Matched (Called r c period grace u (.waiting deadline)) s) (hle : s.now ≤ deadline) :
    Stopped r c period grace u
      { s with
        custody := .released
        inFlight := none
        now := if (match s.custody with | .looping l => l.hasEnded | _ => true) then s.now
          else deadline } := by
  obtain ⟨p, ⟨before, after, hunmade, hcache, hnow, rfl, hcall⟩, htracks⟩ := h .zero
  obtain ⟨more, hreturned, hsame, hlast⟩ := htracks.finish hcall hle
  refine ⟨_, ⟨before, after ++ more, hunmade, hcache, hnow, rfl, ?_⟩, ?_⟩
  all_goals rw [← List.cons_append, ← List.append_assoc, Stoppage.run_append]
  · exact hreturned
  · simp only [htracks.custody]
    exact ⟨hsame, hlast⟩

private theorem Matched.shutdown (h : Matched (Uncalled r c period) s) (grace : Duration) :
    Stopped r c period grace s (s.shutdown grace) := by
  obtain ⟨l, hlooping⟩ := h.custody
  have hasked := h.ask hlooping grace
  have hgrace : s.now ≤ s.now + grace := Nat.le_add_right _ _
  have hsoon : ∀ due : Instant, decide (due < s.now + grace) = true → due ≤ s.now + grace :=
    fun due hdue => Nat.le_of_lt (of_decide_eq_true hdue)
  unfold TenantSession.shutdown
  simp only [hlooping]
  by_cases hnone : grace.nanos = 0
  · simp only [if_pos hnone]
    exact hasked.finish hgrace
  · simp only [if_neg hnone]
    obtain ⟨hran, hle⟩ := Matched.runWhile closed_called hsoon
      (TenantSession.fuel { s with custody := .looping l.requestStop } (s.now + grace)) hasked hgrace
    exact hran.finish hle

/-- Whatever is done with a session after its loop has started, its shutdown is a stoppage of that
loop: the call is made where the session is, and returns where the shutdown does. -/
theorem stopped_of_deeds (hcustody : s.custody = .onDemand r) (hidle : s.inFlight = none)
    (period : Duration) (deeds : List Deed) (hdeeds : ∀ d ∈ deeds, ∀ grace, d ≠ .shutdown grace)
    (grace : Duration) :
    Stopped r s.cache period grace (deeds.foldl TenantSession.perform (s.startLoop period))
      ((deeds.foldl TenantSession.perform (s.startLoop period)).shutdown grace) :=
  ((matched_startLoop hcustody hidle period).foldl closed_uncalled hdeeds).shutdown grace

end TenantSession

end TenantGateway.Simulation
