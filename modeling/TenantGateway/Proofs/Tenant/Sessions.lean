import TenantGateway.Simulation.Tenants
import TenantGateway.Proofs.Tenant.Loop
import TenantGateway.Proofs.Tenant.Soundness

/-! A session on a virtual clock is a run of a desk: its loop contributes cycles, its calls ask and
are answered, and time passes in between. So what holds of every desk holds of every session. -/
namespace TenantGateway.Simulation
open Tenant

namespace TenantSession

/-- The refresher, whoever drives it. -/
def refresher? (s : TenantSession) : Option Refresher :=
  match s.custody with
  | .onDemand r => some r
  | .looping l => some l.refresher
  | .released => none

/-- The session keeps the desk's cache at the desk's time, and gives entries the desk's life. -/
structure Follows (s : TenantSession) (d : Desk) : Prop where
  cache : s.cache = d.cache
  now : s.now = d.now
  ttl : s.ttlSeconds = d.ttlSeconds
  cycleTtl : ∀ r, s.refresher? = some r → r.ttlSeconds = d.refresher.ttlSeconds

/-- Some run of a desk has come to where the session is, with these calls waiting. -/
def Reached (ttlSeconds : Nat) (fetchTimeout : Duration) (waiting : List Waiting)
    (s : TenantSession) : Prop :=
  ∃ actions, s.Follows (Desk.run ttlSeconds fetchTimeout actions) ∧
    (Desk.run ttlSeconds fetchTimeout actions).waiting = waiting

/-- Some run of a desk has come to where the session is by the end of a call. -/
def Answered (ttlSeconds : Nat) (fetchTimeout : Duration) (credential : String)
    (verdict : Verdict) (s : TenantSession) : Prop :=
  ∃ actions c earlier, s.Follows (Desk.run ttlSeconds fetchTimeout actions) ∧
    (Desk.run ttlSeconds fetchTimeout actions).waiting = [] ∧
    (Desk.run ttlSeconds fetchTimeout actions).journal = .call c :: earlier ∧
    c.credential = credential ∧ c.verdict = verdict

variable {ttlSeconds : Nat} {fetchTimeout : Duration} {waiting : List Waiting}
  {s t : TenantSession}

private theorem Follows.moved {d : Desk} (h : s.Follows d) (hcache : t.cache = s.cache)
    (hnow : t.now = s.now) (httl : t.ttlSeconds = s.ttlSeconds)
    (hcycle : ∀ r, t.refresher? = some r →
      ∃ r', s.refresher? = some r' ∧ r.ttlSeconds = r'.ttlSeconds) : t.Follows d where
  cache := hcache.trans h.cache
  now := hnow.trans h.now
  ttl := httl.trans h.ttl
  cycleTtl := by
    intro r hr
    obtain ⟨r', hr', heq⟩ := hcycle r hr
    exact heq.trans (h.cycleTtl r' hr')

private theorem Reached.moved (h : Reached ttlSeconds fetchTimeout waiting s)
    (hcache : t.cache = s.cache) (hnow : t.now = s.now) (httl : t.ttlSeconds = s.ttlSeconds)
    (hcycle : ∀ r, t.refresher? = some r →
      ∃ r', s.refresher? = some r' ∧ r.ttlSeconds = r'.ttlSeconds) :
    Reached ttlSeconds fetchTimeout waiting t := by
  obtain ⟨actions, hfollows, hwaiting⟩ := h
  exact ⟨actions, hfollows.moved hcache hnow httl hcycle, hwaiting⟩

private theorem Reached.report (h : Reached ttlSeconds fetchTimeout waiting s)
    (ms : List Measurement) : Reached ttlSeconds fetchTimeout waiting (s.report ms) :=
  h.moved rfl rfl rfl fun r hr => ⟨r, hr, rfl⟩

private theorem Reached.advance (h : Reached ttlSeconds fetchTimeout waiting s) {time : Instant}
    (hle : s.now ≤ time) : Reached ttlSeconds fetchTimeout waiting { s with now := time } := by
  obtain ⟨actions, hfollows, hwaiting⟩ := h
  refine ⟨actions ++ [.advance (time.since s.now)], ?_⟩
  rw [Desk.run_snoc]
  refine ⟨⟨hfollows.cache, ?_, hfollows.ttl, hfollows.cycleTtl⟩, hwaiting⟩
  change time = (Desk.run ttlSeconds fetchTimeout actions).now + time.since s.now
  rw [← hfollows.now]
  exact (Instant.add_since hle).symm

private theorem cache_complete {r r' : Refresher} (h : r.ttlSeconds = r'.ttlSeconds) (c : Cache)
    (now : Instant) (answer : Except RefreshError Snapshot) :
    (r.complete c now answer).2.2 = (r'.complete c now answer).2.2 := by
  cases answer with
  | error e => rfl
  | ok snapshot =>
    simp only [Refresher.complete, h]
    cases snapshot.entries? r'.ttlSeconds now <;> rfl

private theorem ttlSeconds_complete (r : Refresher) (c : Cache) (now : Instant)
    (answer : Except RefreshError Snapshot) :
    (r.complete c now answer).2.1.ttlSeconds = r.ttlSeconds := by
  rcases r.complete_cases c now answer with
    ⟨e, -, hend⟩ | ⟨snapshot, entries, -, hend, -⟩ | ⟨snapshot, -, -, hend⟩
  all_goals simp only [hend, Refresher.fail, Refresher.succeed]

private theorem Reached.endCycle (h : Reached ttlSeconds fetchTimeout waiting s)
    {r r' : Refresher} (hr' : s.refresher? = some r') (hr : r.ttlSeconds = r'.ttlSeconds)
    (answer : Except RefreshError Snapshot)
    (hcache : t.cache = (r.complete s.cache s.now answer).2.2) (hnow : t.now = s.now)
    (httl : t.ttlSeconds = s.ttlSeconds)
    (hcycle : ∀ after, t.refresher? = some after → after.ttlSeconds = r.ttlSeconds) :
    Reached ttlSeconds fetchTimeout waiting t := by
  obtain ⟨actions, hfollows, hwaiting⟩ := h
  have hsame := hr.trans (hfollows.cycleTtl r' hr')
  refine ⟨actions ++ [.endCycle answer], ?_⟩
  rw [Desk.run_snoc]
  refine ⟨⟨?_, hnow.trans hfollows.now, httl.trans hfollows.ttl, ?_⟩, hwaiting⟩
  · rw [hcache, hfollows.cache, hfollows.now]
    exact cache_complete hsame _ _ _
  · intro after hafter
    refine (hcycle after hafter).trans (hsame.trans ?_)
    exact (ttlSeconds_complete _ _ _ _).symm

private theorem ttlSeconds_turn (l : RefreshLoop) (now : Instant) :
    (l.turn now).refresher.ttlSeconds = l.refresher.ttlSeconds := by
  rcases l.turn_cases now with h | ⟨-, ⟨-, h⟩ | ⟨-, -, h⟩ | ⟨-, tick, h⟩⟩
  all_goals simp only [h, RefreshLoop.stop, Refresher.beginCycle]

private theorem answer_cases (s : TenantSession) (r : Refresher) (f : Fetch) :
    ∃ answer directory, s.answer r f = (answer, { s with directory }) := by
  unfold answer
  split
  · exact ⟨_, s.directory, rfl⟩
  · exact ⟨_, _, rfl⟩

/-- A step of a session is a turn of its loop between cycles, or a fetch begins or ends. -/
theorem step?_cases (h : s.step? = some t) :
    ∃ l, s.custody = .looping l ∧
      (l.inCycle = false ∧ t = { s with custody := .looping (l.turn s.now) } ∨
        l.inCycle = true ∧ s.inFlight = none ∧
          t = { s with inFlight := some (s.fetchOf l.refresher) } ∨
        ∃ f answer directory, l.inCycle = true ∧ s.inFlight = some f ∧ f.due ≤ s.now ∧
          s.answer l.refresher f = (answer, { s with directory }) ∧
          t = TenantSession.report
            { s with
              directory
              custody := .looping (l.settle s.cache s.now answer).1
              cache := (l.settle s.cache s.now answer).2.1
              inFlight := none }
            (l.settle s.cache s.now answer).2.2) := by
  unfold TenantSession.step? at h
  split at h
  next l hlooping =>
    refine ⟨l, hlooping, ?_⟩
    split at h
    next hfresh =>
      have hturn : l.turn s.now = l.start s.now := by
        simp only [RefreshLoop.turn, hfresh]
      exact .inl ⟨RefreshLoop.inCycle_of_isBetween (.inl hfresh),
        hturn ▸ (Option.some.inj h).symm⟩
    next due hwaiting =>
      have hturn : l.turn s.now = l.tick s.now := by
        simp only [RefreshLoop.turn, hwaiting]
      split at h
      next =>
        exact .inl ⟨RefreshLoop.inCycle_of_isBetween (.inr ⟨due, hwaiting⟩),
          hturn ▸ (Option.some.inj h).symm⟩
      next => cases h
    next tick hfetching =>
      have hin := RefreshLoop.inCycle_eq_true_iff.mpr ⟨tick, hfetching⟩
      split at h
      next hnone => exact .inr (.inl ⟨hin, hnone, (Option.some.inj h).symm⟩)
      next f hf =>
        split at h
        next hdue =>
          obtain ⟨answer, directory, hanswer⟩ := s.answer_cases l.refresher f
          rw [hanswer] at h
          exact .inr (.inr ⟨f, answer, directory, hin, hf, hdue, hanswer,
            (Option.some.inj h).symm⟩)
        next => cases h
    next => cases h
    next => cases h
  next => cases h

private theorem settle_fetching {l : RefreshLoop} {tick : Instant} (h : l.phase = .fetching tick)
    (c : Cache) (now : Instant) (answer : Except RefreshError Snapshot) :
    (l.settle c now answer).1.refresher = (l.refresher.complete c now answer).2.1 ∧
      (l.settle c now answer).2.1 = (l.refresher.complete c now answer).2.2 := by
  simp only [RefreshLoop.settle, h]
  exact ⟨trivial, trivial⟩

private theorem Reached.step? (h : Reached ttlSeconds fetchTimeout waiting s)
    (hstep : s.step? = some t) :
    Reached ttlSeconds fetchTimeout waiting t ∧ t.now = s.now := by
  obtain ⟨l, hlooping, ⟨-, rfl⟩ | ⟨-, -, rfl⟩ | ⟨f, answer, directory, hin, -, -, -, rfl⟩⟩ :=
    step?_cases hstep
  all_goals have hr : s.refresher? = some l.refresher := by rw [refresher?, hlooping]
  · refine ⟨h.moved rfl rfl rfl ?_, rfl⟩
    intro r hr'
    cases hr'
    exact ⟨_, hr, ttlSeconds_turn l _⟩
  · exact ⟨h.moved rfl rfl rfl fun r hr' => ⟨r, hr', rfl⟩, rfl⟩
  · obtain ⟨tick, hfetching⟩ := RefreshLoop.inCycle_eq_true_iff.mp hin
    obtain ⟨hrefresher, hcache⟩ := settle_fetching hfetching s.cache s.now answer
    refine ⟨.report ?_ _, rfl⟩
    refine h.endCycle hr rfl answer hcache rfl rfl ?_
    intro r hr'
    obtain rfl := Option.some.inj hr'
    exact (congrArg Refresher.ttlSeconds hrefresher).trans (ttlSeconds_complete _ _ _ _)

/-- A loop that cannot go on now can go on later. -/
theorem now_le_due {due : Instant} (hstep : s.step? = none) (hdue : s.due? = some due) :
    s.now ≤ due := by
  unfold TenantSession.step? at hstep
  unfold due? at hdue
  split at hdue
  next l hlooping =>
    rw [hlooping] at hstep
    split at hdue
    next due' hphase =>
      cases hdue
      simp only [hphase] at hstep
      split at hstep
      next => cases hstep
      next hlater => exact Nat.le_of_not_le fun hle => hlater (.inr hle)
    next tick hphase =>
      obtain ⟨f, hf, rfl⟩ := Option.map_eq_some_iff.mp hdue
      simp only [hphase, hf] at hstep
      split at hstep
      next => cases hstep
      next hlater => exact Nat.le_of_not_le hlater
    next => cases hdue
  next => cases hdue

private theorem Reached.runWhile {soon : Instant → Bool} {target : Instant}
    (hsoon : ∀ due, soon due → due ≤ target) (fuel : Nat) :
    ∀ {s : TenantSession}, Reached ttlSeconds fetchTimeout waiting s → s.now ≤ target →
      Reached ttlSeconds fetchTimeout waiting (s.runWhile soon fuel) ∧
        (s.runWhile soon fuel).now ≤ target := by
  induction fuel with
  | zero =>
    intro s h hle
    exact ⟨h, hle⟩
  | succ fuel ih =>
    intro s h hle
    unfold TenantSession.runWhile
    cases hstep : s.step? with
    | some t =>
      obtain ⟨ht, hnow⟩ := h.step? hstep
      exact ih ht (hnow ▸ hle)
    | none =>
      cases hdue : s.due? with
      | none => exact ⟨h, hle⟩
      | some due =>
        by_cases hnext : soon due
        · simp only [hnext, if_true]
          exact ih (h.advance (now_le_due hstep hdue)) (hsoon due hnext)
        · simp only [hnext]
          exact ⟨h, hle⟩

private theorem Reached.runBefore (h : Reached ttlSeconds fetchTimeout waiting s) {target : Instant}
    (hle : s.now ≤ target) : Reached ttlSeconds fetchTimeout waiting (s.runBefore target) := by
  have hsoon : ∀ due : Instant, decide (due < target) = true → due ≤ target :=
    fun due hdue => Nat.le_of_lt (of_decide_eq_true hdue)
  obtain ⟨hran, hnow⟩ := Reached.runWhile hsoon (s.fuel target) h hle
  exact hran.advance hnow

private theorem Reached.runThrough (h : Reached ttlSeconds fetchTimeout waiting s)
    {target : Instant} (hle : s.now ≤ target) :
    Reached ttlSeconds fetchTimeout waiting (s.runThrough target) := by
  have hsoon : ∀ due : Instant, decide (due ≤ target) = true → due ≤ target :=
    fun due hdue => of_decide_eq_true hdue
  obtain ⟨hran, hnow⟩ := Reached.runWhile hsoon (s.fuel target) h hle
  exact hran.advance hnow

private theorem Reached.wait (h : Reached ttlSeconds fetchTimeout waiting s) (span : Duration) :
    Reached ttlSeconds fetchTimeout waiting (s.wait span) := by
  unfold TenantSession.wait
  split
  · exact h
  · exact h.runBefore (Nat.le_add_right _ _)

private theorem Reached.redirect (h : Reached ttlSeconds fetchTimeout waiting s)
    (directory : SlowDirectory) :
    Reached ttlSeconds fetchTimeout waiting { s with directory } :=
  h.moved rfl rfl rfl fun r hr => ⟨r, hr, rfl⟩

private theorem Reached.refresh (h : Reached ttlSeconds fetchTimeout waiting s) :
    Reached ttlSeconds fetchTimeout waiting s.refresh.2 := by
  unfold TenantSession.refresh
  split
  next r hdemand =>
    have hr : s.refresher? = some r := by rw [refresher?, hdemand]
    have hlater : s.now ≤ (s.fetchOf r.beginCycle).due := by
      unfold fetchOf
      split <;> exact Nat.le_add_right _ _
    obtain ⟨answer, directory, hanswer⟩ := answer_cases
      { s with now := (s.fetchOf r.beginCycle).due } r.beginCycle (s.fetchOf r.beginCycle)
    simp only [hanswer]
    refine .report ?_ _
    refine (h.advance hlater).endCycle (r := r.beginCycle) hr rfl answer rfl rfl rfl ?_
    intro after hafter
    obtain rfl := Option.some.inj hafter
    exact ttlSeconds_complete _ _ _ _
  next => exact h

private theorem Reached.startLoop (h : Reached ttlSeconds fetchTimeout waiting s)
    (period : Duration) :
    Reached ttlSeconds fetchTimeout waiting (s.startLoop period) := by
  unfold TenantSession.startLoop
  split
  next r hdemand =>
    refine h.moved rfl rfl rfl ?_
    intro after hafter
    obtain rfl := Option.some.inj hafter
    exact ⟨r, by rw [refresher?, hdemand], rfl⟩
  next => exact h

private theorem Reached.awaitCycle (h : Reached ttlSeconds fetchTimeout waiting s) (fuel : Nat) :
    Reached ttlSeconds fetchTimeout waiting (s.awaitCycle fuel) := by
  induction fuel generalizing s with
  | zero => exact h
  | succ fuel ih =>
    unfold TenantSession.awaitCycle
    split
    next l hlooping =>
      split
      next => exact h
      next =>
        split
        next t hstep => exact ih (h.step? hstep).1
        next due hstep hdue => exact ih (h.advance (now_le_due hstep hdue))
        next => exact h
    next => exact h

private theorem Reached.shutdown (h : Reached ttlSeconds fetchTimeout waiting s)
    (grace : Duration) :
    Reached ttlSeconds fetchTimeout waiting (s.shutdown grace) := by
  unfold TenantSession.shutdown
  split
  next l hlooping =>
    have hasked : Reached ttlSeconds fetchTimeout waiting
        { s with custody := .looping l.requestStop } := by
      refine h.moved rfl rfl rfl ?_
      intro after hafter
      obtain rfl := Option.some.inj hafter
      exact ⟨l.refresher, by rw [refresher?, hlooping], rfl⟩
    have hgrace : s.now ≤ s.now + grace := Nat.le_add_right _ _
    have hsoon : ∀ due : Instant, decide (due < s.now + grace) = true → due ≤ s.now + grace :=
      fun due hdue => Nat.le_of_lt (of_decide_eq_true hdue)
    have hreleased : ∀ u : TenantSession, Reached ttlSeconds fetchTimeout waiting u →
        u.now ≤ s.now + grace → ∀ ended : Bool, Reached ttlSeconds fetchTimeout waiting
          { u with
            custody := .released
            inFlight := none
            now := if ended then u.now else s.now + grace } := by
      intro u hu hle ended
      have hlater : u.now ≤ if ended then u.now else s.now + grace := by
        cases ended with
        | true => exact Nat.le_refl _
        | false => exact hle
      refine (hu.advance hlater).moved rfl rfl rfl ?_
      intro after hafter
      cases hafter
    simp only
    by_cases hnone : grace.nanos = 0
    · rw [if_pos hnone]
      exact hreleased _ hasked hgrace _
    · rw [if_neg hnone]
      obtain ⟨hran, hnow⟩ := Reached.runWhile hsoon
        (TenantSession.fuel { s with custody := .looping l.requestStop } (s.now + grace)) hasked hgrace
      exact hreleased _ hran hnow _
  next => exact h

private theorem Reached.done (h : Reached ttlSeconds fetchTimeout [] s) {credential : String}
    {verdict : Verdict} (hinquire : (s.cache.inquire credential s.now).1 = .done verdict) :
    Answered ttlSeconds fetchTimeout credential verdict s := by
  obtain ⟨actions, hfollows, hwaiting⟩ := h
  rw [hfollows.cache, hfollows.now] at hinquire
  refine ⟨actions ++ [.ask credential], ?_⟩
  rw [Desk.run_snoc, Desk.step, Desk.ask, hinquire]
  exact ⟨_, _, ⟨hfollows.cache, hfollows.now, hfollows.ttl, hfollows.cycleTtl⟩, hwaiting, rfl, rfl, rfl⟩

private theorem Reached.ask (h : Reached ttlSeconds fetchTimeout [] s) {credential : String}
    {f : Fingerprint} {stale : Option Entry}
    (hinquire : (s.cache.inquire credential s.now).1 = .ask f stale) :
    Reached ttlSeconds fetchTimeout [⟨credential, s.now, f, stale⟩] s := by
  obtain ⟨actions, hfollows, hwaiting⟩ := h
  rw [hfollows.cache, hfollows.now] at hinquire
  refine ⟨actions ++ [.ask credential], ?_⟩
  rw [Desk.run_snoc, Desk.step, Desk.ask, hinquire, hfollows.now]
  refine ⟨⟨hfollows.cache, hfollows.now, hfollows.ttl, hfollows.cycleTtl⟩, ?_⟩
  rw [hwaiting]
  rfl

private theorem Reached.reply {w : Waiting} (h : Reached ttlSeconds fetchTimeout [w] s)
    (answer : Except DirectoryError (Option Record))
    (hcache : t.cache = (s.cache.settle s.ttlSeconds w.fingerprint w.stale s.now answer).2)
    (hnow : t.now = s.now) (httl : t.ttlSeconds = s.ttlSeconds)
    (hcycle : t.refresher? = s.refresher?) :
    Answered ttlSeconds fetchTimeout w.credential
      (s.cache.settle s.ttlSeconds w.fingerprint w.stale s.now answer).1 t := by
  obtain ⟨actions, hfollows, hwaiting⟩ := h
  have hplace : (Desk.run ttlSeconds fetchTimeout actions).waiting[0]? = some w := by
    rw [hwaiting]
    rfl
  refine ⟨actions ++ [.reply 0 answer], ?_⟩
  rw [Desk.run_snoc, Desk.step, Desk.reply_of_waiting hplace]
  rw [hfollows.cache, hfollows.ttl, hfollows.now] at hcache
  rw [hfollows.cache, hfollows.ttl, hfollows.now]
  refine ⟨_, _, ⟨hcache, hnow.trans hfollows.now, httl.trans hfollows.ttl, ?_⟩, ?_, rfl, rfl, rfl⟩
  · intro r hr
    rw [hcycle] at hr
    exact hfollows.cycleTtl r hr
  · rw [hwaiting]
    rfl

/-- A call of the session is a call of the desk that it follows. -/
theorem Reached.authenticate (h : Reached ttlSeconds fetchTimeout [] s) (credential : String) :
    Answered ttlSeconds fetchTimeout credential (s.authenticate (some credential)).1
      (s.authenticate (some credential)).2 := by
  have hran := h.runThrough (Nat.le_refl s.now.nanos)
  simp only [TenantSession.authenticate]
  generalize s.runThrough s.now = u at hran
  rcases hinquire : u.cache.inquire credential u.now with ⟨next, ms⟩
  have hnext : ((u.report ms).cache.inquire credential (u.report ms).now).1 = next :=
    congrArg Prod.fst hinquire
  cases next with
  | done verdict => exact (hran.report ms).done hnext
  | ask f stale =>
    have hle : (u.report ms).now ≤ (u.report ms).now + (u.report ms).directory.delay :=
      Nat.le_add_right _ _
    exact (((hran.report ms).ask hnext).runThrough hle).reply _ rfl rfl rfl rfl

private theorem Answered.reached {credential : String} {verdict : Verdict}
    (h : Answered ttlSeconds fetchTimeout credential verdict s) :
    Reached ttlSeconds fetchTimeout [] s := by
  obtain ⟨actions, c, earlier, hfollows, hwaiting, -⟩ := h
  exact ⟨actions, hfollows, hwaiting⟩

/-- What can be done with a session, and with the directory behind it. -/
inductive Deed where
  | wait (span : Duration)
  | redirect (directory : SlowDirectory)
  | authenticate (credential : Option String)
  | refresh
  | startLoop (period : Duration)
  | awaitCycle (fuel : Nat)
  | shutdown (grace : Duration)

def perform (s : TenantSession) : Deed → TenantSession
  | .wait span => s.wait span
  | .redirect directory => { s with directory }
  | .authenticate credential => (s.authenticate credential).2
  | .refresh => s.refresh.2
  | .startLoop period => s.startLoop period
  | .awaitCycle fuel => s.awaitCycle fuel
  | .shutdown grace => s.shutdown grace

private theorem Reached.perform (h : Reached ttlSeconds fetchTimeout [] s) (deed : Deed) :
    Reached ttlSeconds fetchTimeout [] (s.perform deed) := by
  cases deed with
  | wait span => exact h.wait span
  | redirect directory => exact h.redirect directory
  | authenticate credential =>
    cases credential with
    | none => exact (h.runThrough (Nat.le_refl s.now.nanos)).report _
    | some credential => exact (h.authenticate credential).reached
  | refresh => exact h.refresh
  | startLoop period => exact h.startLoop period
  | awaitCycle fuel => exact h.awaitCycle fuel
  | shutdown grace => exact h.shutdown grace

private theorem reached_of_deeds (directory : SlowDirectory) (ttlSeconds : Nat)
    (fetchTimeout : Duration) (deeds : List Deed) :
    Reached ttlSeconds fetchTimeout []
      (deeds.foldl perform (ofDirectory directory ttlSeconds fetchTimeout)) := by
  induction deeds using List.reverseRecOn with
  | nil =>
    refine ⟨[], ⟨rfl, rfl, rfl, ?_⟩, rfl⟩
    intro r hr
    obtain rfl := Option.some.inj hr
    rfl
  | append_singleton deeds deed ih =>
    rw [List.foldl_append]
    exact ih.perform deed

/-- Whatever has been done with a session, its cache is a sound desk's, and its next call is granted
an entry only with good reason. -/
theorem sound_of_deeds (directory : SlowDirectory) (ttlSeconds : Nat) (fetchTimeout : Duration)
    (deeds : List Deed) :
    let s := deeds.foldl perform (ofDirectory directory ttlSeconds fetchTimeout)
    (∃ d, s.Follows d ∧ d.Sound ttlSeconds) ∧
      ∀ credential, ∃ (c : Tenant.Call) (earlier : List Ending), c.credential = credential ∧
        c.verdict = (s.authenticate (some credential)).1 ∧ c.Justified ttlSeconds earlier := by
  intro s
  have hreached : Reached ttlSeconds fetchTimeout [] s :=
    reached_of_deeds directory ttlSeconds fetchTimeout deeds
  have hsound : ∀ actions, (Desk.run ttlSeconds fetchTimeout actions).Sound ttlSeconds :=
    fun actions => (Desk.tracked_run ttlSeconds fetchTimeout actions).sound
  refine ⟨?_, ?_⟩
  · obtain ⟨actions, hfollows, -⟩ := hreached
    exact ⟨_, hfollows, hsound actions⟩
  · intro credential
    obtain ⟨actions, c, earlier, -, -, hjournal, hcredential, hverdict⟩ :=
      hreached.authenticate credential
    refine ⟨c, earlier, hcredential, hverdict, (hsound actions).granted c earlier ?_⟩
    exact hjournal ▸ List.suffix_refl _

end TenantSession

end TenantGateway.Simulation
