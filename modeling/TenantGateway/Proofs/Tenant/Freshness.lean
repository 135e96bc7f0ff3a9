import TenantGateway.Proofs.Tenant.Loop

/-! A refresh loop over a healthy directory keeps its keys good. Nothing bounds the delay of a fetch but
its time limit, so the time between two generations is bounded by the states of the loop: a cycle
begins a period after the last one has ended at the latest, and ends within the time limit. -/
namespace TenantGateway.Tenant

/-- What the timing of a loop depends on. -/
structure Pace where
  period : Duration
  ttlSeconds : Nat
  fetchTimeout : Duration

/-- A refresh loop and the authentications of others over one cache. -/
structure Watch where
  loop : RefreshLoop
  cache : Cache
  now : Instant
  /-- When the cycle under way has begun. -/
  began : Instant

namespace Watch

inductive Event where
  | advance (span : Duration)
  | start
  | tick
  /-- The fetch of the cycle under way ends. -/
  | fetched (answer : Except RefreshError Snapshot)
  /-- The directory answers an authentication that has asked about a fingerprint. -/
  | answered (f : Fingerprint) (stale : Option Entry)
      (answer : Except DirectoryError (Option Record))
  | requestStop

def open_ (p : Pace) : Watch :=
  { loop := .ofRefresher (.ofLimits p.ttlSeconds p.fetchTimeout) p.period
    cache := .empty, now := .start, began := .start }

/-- The loop takes a turn, which may begin a cycle. -/
def turn (w : Watch) (loop : RefreshLoop) : Watch :=
  { w with
    loop
    began := match w.loop.phase with
      | .fetching _ => w.began
      | _ => w.now }

def step (w : Watch) : Event → Watch
  | .advance span => { w with now := w.now + span }
  | .start => w.turn (w.loop.start w.now)
  | .tick => w.turn (w.loop.tick w.now)
  | .fetched answer =>
    let settled := w.loop.settle w.cache w.now answer
    { w with loop := settled.1, cache := settled.2.1 }
  | .answered f stale answer =>
    { w with cache := (w.cache.settle w.loop.refresher.ttlSeconds f stale w.now answer).2 }
  | .requestStop => { w with loop := w.loop.requestStop }

def run (p : Pace) (events : List Event) : Watch := events.foldl step (open_ p)

/-- The timer wakes the loop when a tick is due, and every fetch succeeds within its time limit and
gives the key with the fingerprint. -/
def Healthy (f : Fingerprint) (w : Watch) : Event → Prop
  | .advance span =>
    match w.loop.phase with
    | .waiting due => w.now + span ≤ due
    | .fetching _ => w.now + span < w.began + w.loop.refresher.fetchTimeout
    | _ => True
  | .fetched answer => ∃ s : Snapshot, answer = .ok s ∧ f ∈ s
  | _ => True

/-- All is well with every event of a run that starts in a state. -/
def HealthyRun (f : Fingerprint) (w : Watch) : List Event → Prop
  | [] => True
  | e :: events => w.Healthy f e ∧ HealthyRun f (w.step e) events

def pace (w : Watch) : Pace :=
  ⟨w.loop.period, w.loop.refresher.ttlSeconds, w.loop.refresher.fetchTimeout⟩

/-- The cache has an entry for the fingerprint that is good until `t` or longer. -/
def Covers (f : Fingerprint) (c : Cache) (t : Instant) : Prop :=
  ∃ e, c.entries[f]? = some e ∧ e.fingerprint = f ∧ t ≤ e.expiresAt

/-- What keeps the time between two generations bounded. -/
structure Timely (p : Pace) (f : Fingerprint) (w : Watch) : Prop where
  pace : w.pace = p
  fresh : w.loop.phase = .fresh → w.loop.refresher.isWarm = false
  ended : w.loop.phase = .ended → w.loop.stopping = true
  broken : w.loop.phase = .broken → w.loop.refresher.isWarm = true →
    ¬(w.now + Duration.ofSeconds p.ttlSeconds).InRange
  fetching : ∀ tick, w.loop.phase = .fetching tick →
    w.began ≤ w.now ∧ w.now ≤ w.began + p.fetchTimeout ∧ tick ≤ w.began + p.period
  /-- The last generation has come at some time, and the next cycle begins within a period from it. -/
  warm : w.loop.refresher.isWarm = true → ∃ swapped : Instant, swapped ≤ w.now ∧
    Covers f w.cache (swapped + Duration.ofSeconds p.ttlSeconds) ∧
    (∀ due, w.loop.phase = .waiting due → due ≤ swapped + p.period ∧ w.now ≤ swapped + p.period) ∧
    ∀ tick, w.loop.phase = .fetching tick → w.began ≤ swapped + p.period

variable {p : Pace} {f : Fingerprint} {w : Watch}

private theorem timely_open : Timely p f (open_ p) where
  pace := rfl
  fresh := fun _ => rfl
  ended := nofun
  broken := nofun
  fetching := nofun
  warm := nofun

private theorem Timely.advance (h : Timely p f w) {span : Duration}
    (hspan : w.Healthy f (.advance span)) : Timely p f (w.step (.advance span)) where
  pace := h.pace
  fresh := h.fresh
  ended := h.ended
  broken := by
    intro hphase hwarm hrange
    refine h.broken hphase hwarm (Nat.le_trans (Nat.div_le_div_right ?_) hrange)
    simp only [step, Instant.nanos_add]
    omega
  fetching := by
    intro tick hphase
    obtain ⟨hbegan, -, htick⟩ := h.fetching tick hphase
    have hlimit : w.loop.refresher.fetchTimeout = p.fetchTimeout := congrArg Pace.fetchTimeout h.pace
    simp only [Healthy, show w.loop.phase = .fetching tick from hphase, hlimit] at hspan
    exact ⟨Nat.le_trans hbegan (Nat.le_add_right _ _), Nat.le_of_lt hspan, htick⟩
  warm := by
    intro hwarm
    obtain ⟨swapped, hpast, hcovers, hwaiting, hfetching⟩ := h.warm hwarm
    refine ⟨swapped, Nat.le_trans hpast (Nat.le_add_right _ _), hcovers, ?_, hfetching⟩
    intro due hphase
    obtain ⟨hdue, -⟩ := hwaiting due hphase
    simp only [Healthy, show w.loop.phase = .waiting due from hphase] at hspan
    exact ⟨hdue, Nat.le_trans hspan hdue⟩

private theorem Timely.stop (h : Timely p f w) (hstopping : w.loop.stopping = true)
    (began : Instant) : Timely p f { w with loop := w.loop.stop, began } where
  pace := h.pace
  fresh := nofun
  ended := fun _ => hstopping
  broken := nofun
  fetching := nofun
  warm := by
    intro hwarm
    obtain ⟨swapped, hpast, hcovers, -⟩ := h.warm hwarm
    exact ⟨swapped, hpast, hcovers, nofun, nofun⟩

private theorem Timely.break_ (h : Timely p f w) (state : RefreshState) (began : Instant)
    (hbreak : w.loop.refresher.isWarm = true →
      ¬(w.now + Duration.ofSeconds p.ttlSeconds).InRange) :
    Timely p f
      { w with
        loop := { w.loop with phase := .broken, refresher := { w.loop.refresher with state } }
        began } where
  pace := h.pace
  fresh := nofun
  ended := nofun
  broken := fun _ => hbreak
  fetching := nofun
  warm := by
    intro hwarm
    obtain ⟨swapped, hpast, hcovers, -⟩ := h.warm hwarm
    exact ⟨swapped, hpast, hcovers, nofun, nofun⟩

private theorem Timely.begin_ (h : Timely p f w) {tick : Instant}
    (htick : tick ≤ w.now + p.period)
    (hphase : w.loop.phase = .fresh ∨ ∃ due, w.loop.phase = .waiting due) :
    Timely p f
      { w with
        loop := { w.loop with phase := .fetching tick, refresher := w.loop.refresher.beginCycle }
        began := w.now } where
  pace := h.pace
  fresh := nofun
  ended := nofun
  broken := nofun
  fetching := by
    intro t ht
    cases ht
    exact ⟨Nat.le_refl _, Nat.le_add_right _ _, htick⟩
  warm := by
    intro hwarm
    obtain ⟨swapped, hpast, hcovers, hwaiting, -⟩ := h.warm hwarm
    rcases hphase with hfresh | ⟨due, hdue⟩
    · have hcold := h.fresh hfresh
      rw [show w.loop.refresher.isWarm = true from hwarm] at hcold
      contradiction
    · exact ⟨swapped, hpast, hcovers, nofun, fun _ _ => (hwaiting due hdue).2⟩

private theorem Timely.idle (h : Timely p f w) : Timely p f (w.turn w.loop) where
  pace := h.pace
  fresh := h.fresh
  ended := h.ended
  broken := h.broken
  fetching := by
    intro tick hphase
    have hbegan : (w.turn w.loop).began = w.began := by
      simp only [turn, show w.loop.phase = .fetching tick from hphase]
    rw [hbegan]
    exact h.fetching tick hphase
  warm := by
    intro hwarm
    obtain ⟨swapped, hpast, hcovers, hwaiting, hfetching⟩ := h.warm hwarm
    refine ⟨swapped, hpast, hcovers, hwaiting, fun tick hphase => ?_⟩
    have hbegan : (w.turn w.loop).began = w.began := by
      simp only [turn, show w.loop.phase = .fetching tick from hphase]
    rw [hbegan]
    exact hfetching tick hphase

private theorem Timely.start (h : Timely p f w) : Timely p f (w.step .start) := by
  rw [step]
  rcases w.loop.start_cases w.now with
    hsame | ⟨hfresh, ⟨-, hbreak⟩ | ⟨hstopping, hstop⟩ | ⟨-, hbegin⟩⟩
  · rw [hsame]
    exact h.idle
  · have hcold := h.fresh hfresh
    rw [hbreak]
    exact h.break_ w.loop.refresher.state _ fun hwarm => nomatch hcold.symm.trans hwarm
  · rw [hstop]
    exact h.stop hstopping _
  · have hperiod : w.loop.period = p.period := congrArg Pace.period h.pace
    rw [hbegin, turn, hfresh]
    exact h.begin_ (Nat.le_of_eq (by rw [hperiod])) (.inl hfresh)

private theorem nextTick_le {period : Duration} {due now : Instant} (h : due ≤ now) :
    Instant.nextTick period due now ≤ now + period := by
  unfold Instant.nextTick
  split
  · exact Nat.le_refl _
  · exact Nat.add_le_add_right h _

private theorem Timely.tick (h : Timely p f w) : Timely p f (w.step .tick) := by
  rw [step]
  rcases w.loop.tick_cases w.now with
    hsame | ⟨due, hwaiting, ⟨hstopping, hstop⟩ | ⟨-, hdue, hbegin⟩⟩
  · rw [hsame]
    exact h.idle
  · rw [hstop]
    exact h.stop hstopping _
  · have hperiod : w.loop.period = p.period := congrArg Pace.period h.pace
    have htick : Instant.nextTick w.loop.period due w.now ≤ w.now + p.period := by
      rw [hperiod]
      exact nextTick_le hdue
    rw [hbegin, turn, hwaiting]
    exact h.begin_ htick (.inr ⟨due, hwaiting⟩)

private theorem covers_replaceAll {c : Cache} {entries : Std.ExtTreeMap Fingerprint Entry}
    {s : Snapshot} {ttlSeconds : Nat} {now : Instant} (hf : f ∈ s)
    (hentries : ∀ g, entries[g]? = s[g]?.map fun r => Entry.given ttlSeconds g r now) :
    Covers f (c.replaceAll entries) (now + Duration.ofSeconds ttlSeconds) := by
  obtain ⟨r, hr⟩ := Option.isSome_iff_exists.mp (Std.ExtTreeMap.mem_iff_isSome_getElem?.mp hf)
  refine ⟨.given ttlSeconds f r now, ?_, rfl, Nat.le_refl _⟩
  rw [Cache.replaceAll, hentries, hr]
  rfl

private theorem Timely.fetched (h : Timely p f w) {s : Snapshot} (hf : f ∈ s) :
    Timely p f (w.step (.fetched (.ok s))) := by
  have httl : w.loop.refresher.ttlSeconds = p.ttlSeconds := congrArg Pace.ttlSeconds h.pace
  rw [step]
  rcases w.loop.settle_cases w.cache w.now (.ok s) with
    ⟨-, hsame⟩ | ⟨tick, hphase, ⟨e, hanswer, -⟩ | ⟨s, entries, hanswer, hentries, hloop, hcache⟩ |
    ⟨s, -, hrange, hloop, hcache⟩⟩
  · rw [hsame]
    exact h
  · cases hanswer
  · cases hanswer
    rw [hloop, hcache]
    obtain ⟨hbegan, -, htick⟩ := h.fetching tick hphase
    exact {
      pace := h.pace
      fresh := nofun
      ended := nofun
      broken := nofun
      fetching := nofun
      warm := by
        intro _
        rw [httl] at hentries
        refine ⟨w.now, Nat.le_refl _, covers_replaceAll hf hentries, fun due hdue => ?_, nofun⟩
        cases hdue
        exact ⟨Nat.le_trans htick (Nat.add_le_add_right hbegan _), Nat.le_add_right _ _⟩ }
  · rw [hloop, hcache]
    rw [httl] at hrange
    exact h.break_ .swapping _ fun _ => hrange

private theorem covers_settle {c : Cache} {ttlSeconds : Nat} {swapped now : Instant}
    (h : Covers f c (swapped + Duration.ofSeconds ttlSeconds)) (hpast : swapped ≤ now)
    (g : Fingerprint) (stale : Option Entry) (answer : Except DirectoryError (Option Record)) :
    Covers f (c.settle ttlSeconds g stale now answer).2
      (swapped + Duration.ofSeconds ttlSeconds) := by
  -- An answer of the directory to a single question leaves no entry with less time than before.
  rcases c.settle_cases ttlSeconds g stale now answer with
    ⟨r, -, hsettle⟩ | ⟨r, -, -, hsettle⟩ | ⟨-, hsettle⟩ | ⟨_, e, -, -, hsettle⟩ |
    ⟨_, -, -, hsettle⟩
  · rw [hsettle]
    by_cases hg : g = f
    · refine ⟨.given ttlSeconds g r now, ?_, hg, Nat.add_le_add_right hpast _⟩
      rw [Cache.getElem?_upsert]
      exact if_pos hg
    · obtain ⟨e, he, hname, hgood⟩ := h
      refine ⟨e, ?_, hname, hgood⟩
      rw [Cache.getElem?_upsert, ← he]
      exact if_neg hg
  all_goals
    rw [hsettle]
    exact h

private theorem Timely.answered (h : Timely p f w) (g : Fingerprint) (stale : Option Entry)
    (answer : Except DirectoryError (Option Record)) :
    Timely p f (w.step (.answered g stale answer)) where
  pace := h.pace
  fresh := h.fresh
  ended := h.ended
  broken := h.broken
  fetching := h.fetching
  warm := by
    intro hwarm
    obtain ⟨swapped, hpast, hcovers, hphase⟩ := h.warm hwarm
    have httl : w.loop.refresher.ttlSeconds = p.ttlSeconds := congrArg Pace.ttlSeconds h.pace
    rw [← httl] at hcovers ⊢
    exact ⟨swapped, hpast, covers_settle hcovers hpast g stale answer, hphase⟩

private theorem Timely.step (h : Timely p f w) {e : Event} (healthy : w.Healthy f e) :
    Timely p f (w.step e) := by
  cases e with
  | advance span => exact h.advance healthy
  | start => exact h.start
  | tick => exact h.tick
  | fetched answer =>
    obtain ⟨s, rfl, hf⟩ := healthy
    exact h.fetched hf
  | answered g stale answer => exact h.answered g stale answer
  | requestStop => exact { h with ended := fun _ => rfl }

private theorem Timely.foldl {events : List Event} (h : Timely p f w)
    (healthy : HealthyRun f w events) : Timely p f (events.foldl Watch.step w) := by
  induction events generalizing w with
  | nil => exact h
  | cons e events ih => exact ih (h.step healthy.1) healthy.2

private theorem healthyRun_append {events more : List Event} :
    HealthyRun f w (events ++ more) ↔
      HealthyRun f w events ∧ HealthyRun f (events.foldl Watch.step w) more := by
  induction events generalizing w with
  | nil => exact (and_iff_right trivial).symm
  | cons e events ih => exact (and_congr_right fun _ => ih).trans and_assoc.symm

private theorem lt_advance (w : Watch) : w.now < (w.step (.advance ⟨1⟩)).now :=
  Nat.lt_succ_self w.now.nanos

private theorem exists_later_of_free (hfree : w.Healthy f (.advance ⟨1⟩)) :
    ∃ more, HealthyRun f w more ∧ w.now < (more.foldl Watch.step w).now :=
  ⟨[.advance ⟨1⟩], ⟨hfree, trivial⟩, w.lt_advance⟩

private theorem lt_nextTick {period : Duration} (hperiod : 0 < period.nanos) {due now : Instant}
    (hdue : due ≤ now) : due < Instant.nextTick period due now := by
  simp only [Instant.le_def] at hdue
  unfold Instant.nextTick
  split
  all_goals
    simp only [Instant.lt_def, Instant.nanos_add]
    omega

private theorem exists_fetched {tick : Instant} (hphase : w.loop.phase = .fetching tick) :
    ∃ e, w.Healthy f e ∧ (w.step e).now = w.now ∧ (w.step e).loop.period = w.loop.period ∧
      ((w.step e).loop.phase = .waiting tick ∨ (w.step e).loop.phase = .broken) := by
  have hf : f ∈ (∅ : Snapshot).insert f default := Std.ExtTreeMap.mem_insert_self
  refine ⟨.fetched (.ok ((∅ : Snapshot).insert f default)), ⟨_, rfl, hf⟩, rfl, ?_⟩
  rcases w.loop.settle_cases w.cache w.now (.ok ((∅ : Snapshot).insert f default)) with
    ⟨hother, -⟩ | ⟨t, ht, ⟨e, he, -⟩ | ⟨s, entries, -, -, hloop, -⟩ | ⟨s, -, -, hloop, -⟩⟩
  · exact absurd hphase (hother tick)
  · cases he
  · cases hphase.symm.trans ht
    exact ⟨by rw [step, hloop], .inl (by rw [step, hloop])⟩
  · exact ⟨by rw [step, hloop], .inr (by rw [step, hloop])⟩

private theorem step_tick_of_due {due : Instant} (hphase : w.loop.phase = .waiting due)
    (hdue : due ≤ w.now) :
    (w.step .tick).now = w.now ∧ ((w.step .tick).loop.phase = .ended ∨
      (w.step .tick).loop.phase = .fetching (Instant.nextTick w.loop.period due w.now) ∧
        (w.step .tick).loop.period = w.loop.period) := by
  refine ⟨rfl, ?_⟩
  simp only [step, turn, RefreshLoop.tick, hphase, if_pos hdue]
  split
  · exact .inl rfl
  · exact .inr ⟨rfl, rfl⟩

-- by how long the tick has been due: ticks that do not count as missed catch up, a period each
private theorem exists_later_of_waiting (hperiod : 0 < w.loop.period.nanos) {due : Instant}
    (hphase : w.loop.phase = .waiting due) :
    ∃ more, HealthyRun f w more ∧ w.now < (more.foldl Watch.step w).now := by
  induction hn : w.now.nanos + 1 - due.nanos using Nat.strongRecOn generalizing w due with
  | ind n ih =>
    by_cases hdue : due ≤ w.now
    · have hnext := lt_nextTick hperiod hdue
      obtain ⟨hnow, hended | ⟨hfetching, hsame⟩⟩ := step_tick_of_due hphase hdue
      · obtain ⟨more, hmore, hlater⟩ := exists_later_of_free (f := f) (w := w.step .tick) (by
          simp only [Healthy, hended])
        exact ⟨.tick :: more, ⟨trivial, hmore⟩, hlater⟩
      · obtain ⟨e, he, hnow', hsame', hwaiting | hbroken⟩ := exists_fetched (f := f) hfetching
        · rw [hsame] at hsame'
          rw [hnow] at hnow'
          obtain ⟨more, hmore, hlater⟩ := ih _ (by
            rw [← hn, hnow']
            simp only [Instant.le_def, Instant.lt_def] at hdue hnext
            omega) (hsame' ▸ hperiod) hwaiting rfl
          exact ⟨.tick :: e :: more, ⟨trivial, he, hmore⟩, hnow' ▸ hlater⟩
        · obtain ⟨more, hmore, hlater⟩ :=
            exists_later_of_free (f := f) (w := (w.step .tick).step e) (by
              simp only [Healthy, hbroken])
          rw [hnow'] at hlater
          exact ⟨.tick :: e :: more, ⟨trivial, he, hmore⟩, hlater⟩
    · refine exists_later_of_free ?_
      simp only [Healthy, hphase]
      exact Nat.lt_of_not_le hdue

private theorem Timely.exists_later (h : Timely p f w) (hperiod : 0 < p.period.nanos) :
    ∃ more, HealthyRun f w more ∧ w.now < (more.foldl Watch.step w).now := by
  have hsame : w.loop.period = p.period := congrArg Pace.period h.pace
  rw [← hsame] at hperiod
  cases hphase : w.loop.phase with
  | waiting due => exact exists_later_of_waiting hperiod hphase
  | fetching tick =>
    obtain ⟨e, he, hnow, hperiod', hwaiting | hbroken⟩ := exists_fetched (f := f) hphase
    · obtain ⟨more, hmore, hlater⟩ :=
        exists_later_of_waiting (f := f) (hperiod' ▸ hperiod) hwaiting
      exact ⟨e :: more, ⟨he, hmore⟩, hnow ▸ hlater⟩
    · obtain ⟨more, hmore, hlater⟩ := exists_later_of_free (f := f) (w := w.step e) (by
        simp only [Healthy, hbroken])
      exact ⟨e :: more, ⟨he, hmore⟩, hnow ▸ hlater⟩
  | fresh | ended | broken =>
    refine exists_later_of_free ?_
    simp only [Healthy, hphase]

/-- All can stay well for as long as one likes: ticks that are due are served and fetches end in time,
so that nothing keeps the clock from going on. -/
theorem exists_healthyRun_until (hperiod : 0 < p.period.nanos) {events : List Event}
    (healthy : HealthyRun f (open_ p) events) (t : Instant) :
    ∃ more, HealthyRun f (open_ p) (events ++ more) ∧ t ≤ (run p (events ++ more)).now := by
  induction hn : t.nanos - (run p events).now.nanos using Nat.strongRecOn generalizing events with
  | ind n ih =>
    by_cases hreached : t ≤ (run p events).now
    · refine ⟨[], ?_, ?_⟩
      · rwa [List.append_nil]
      · rwa [List.append_nil]
    · have htimely : Timely p f (run p events) := timely_open.foldl healthy
      obtain ⟨more, hmore, hlater⟩ := htimely.exists_later hperiod
      have hrun : run p (events ++ more) = more.foldl Watch.step (run p events) :=
        List.foldl_append
      obtain ⟨rest, hrest, hend⟩ := ih _ (by
        rw [← hn, hrun]
        simp only [Instant.le_def, Instant.lt_def] at hreached hlater
        omega) (healthyRun_append.mpr ⟨healthy, hmore⟩) rfl
      rw [List.append_assoc] at hrest hend
      exact ⟨more ++ rest, hrest, hend⟩

private theorem Timely.now_lt (h : Timely p f w)
    (hpace : p.period + p.fetchTimeout < Duration.ofSeconds p.ttlSeconds)
    (hwarm : w.loop.refresher.isWarm = true) (hgoing : w.loop.stopping = false)
    (hwhole : w.loop.phase ≠ .broken) :
    ∃ e, w.cache.entries[f]? = some e ∧ e.fingerprint = f ∧ w.now < e.expiresAt := by
  -- While the loop goes on, a generation outlives the wait for the next one.
  obtain ⟨swapped, -, ⟨e, he, hname, hgood⟩, hwaiting, hfetching⟩ := h.warm hwarm
  refine ⟨e, he, hname, Nat.lt_of_lt_of_le ?_ hgood⟩
  simp only [Duration.lt_def, Duration.nanos_add, Instant.nanos_add] at hpace ⊢
  cases hphase : w.loop.phase with
  | fresh =>
    rw [h.fresh hphase] at hwarm
    contradiction
  | waiting due =>
    have hnow := (hwaiting due hphase).2
    simp only [Instant.le_def, Instant.nanos_add] at hnow
    omega
  | fetching tick =>
    have hbegan := hfetching tick hphase
    have hnow := (h.fetching tick hphase).2.1
    simp only [Instant.le_def, Instant.nanos_add] at hbegan hnow
    omega
  | ended =>
    rw [h.ended hphase] at hgoing
    contradiction
  | broken => exact absurd hphase hwhole

/-- Entries that live longer than a period and the time limit of a fetch together do not lapse: from
the first cycle on, a key that the directory always gives is found, and nobody asks for it, until the
loop is to stop. Only where the clock cannot represent the end of new entries does the loop break off. -/
theorem found_in_healthyRun
    (hpace : p.period + p.fetchTimeout < Duration.ofSeconds p.ttlSeconds) (events : List Event)
    (healthy : HealthyRun f (open_ p) events)
    (hwarm : (run p events).loop.refresher.isWarm = true)
    (hgoing : (run p events).loop.stopping = false) :
    (run p events).loop.phase = .broken ∧
        ¬((run p events).now + Duration.ofSeconds p.ttlSeconds).InRange ∨
      ∃ e, e.fingerprint = f ∧ (run p events).cache.lookup f (run p events).now = .hit e ∧
        ∀ credential, ¬(Text.trim credential).isEmpty →
          Fingerprint.ofCredential (Text.trim credential) = f →
            ((run p events).cache.inquire credential (run p events).now).1 =
              .done (.granted e) := by
  have htimely : Timely p f (run p events) := timely_open.foldl healthy
  by_cases hbroken : (run p events).loop.phase = .broken
  · exact .inl ⟨hbroken, htimely.broken hbroken hwarm⟩
  · right
    obtain ⟨e, he, hname, hgood⟩ := htimely.now_lt hpace hwarm hgoing hbroken
    have hlive : ¬e.expiresAt ≤ (run p events).now := Nat.not_le_of_lt hgood
    have hlookup : (run p events).cache.lookup f (run p events).now = .hit e := by
      simp only [Cache.lookup, he, Entry.isExpired, hlive, decide_false, if_false,
        Bool.false_eq_true]
    refine ⟨e, hname, hlookup, fun credential hblank hf => ?_⟩
    simp only [Cache.inquire, hblank, hf, hlookup, if_false, Bool.false_eq_true]

/-- Fetches of two seconds every second, with an authentication in the course of the second. -/
def slowFetches (f : Fingerprint) (r : Record) : List Event :=
  [.start, .advance (.ofSeconds 2), .fetched (.ok ((∅ : Snapshot).insert f r)),
    .tick, .answered f none (.ok none), .advance (.ofSeconds 2),
    .fetched (.ok ((∅ : Snapshot).insert f r)), .tick, .advance (.ofSeconds 2)]

/-- A key is found while the third of the slow fetches is under way. -/
theorem found_in_healthyRun_of_slowFetches :
    (HealthyRun ⟨"a"⟩ (open_ ⟨.ofSeconds 1, 5, .ofSeconds 3⟩)
        (slowFetches ⟨"a"⟩ ⟨"org", "key_a", ⟨10, 100, 5⟩⟩)) ∧
      ∃ e, (run ⟨.ofSeconds 1, 5, .ofSeconds 3⟩
          (slowFetches ⟨"a"⟩ ⟨"org", "key_a", ⟨10, 100, 5⟩⟩)).cache.lookup ⟨"a"⟩
        ⟨6000000000⟩ = .hit e := by
  have hkey : (⟨"a"⟩ : Fingerprint) ∈
      (∅ : Snapshot).insert ⟨"a"⟩ ⟨"org", "key_a", ⟨10, 100, 5⟩⟩ := by
    simp
  have healthy : HealthyRun ⟨"a"⟩ (open_ ⟨.ofSeconds 1, 5, .ofSeconds 3⟩)
      (slowFetches ⟨"a"⟩ ⟨"org", "key_a", ⟨10, 100, 5⟩⟩) :=
    ⟨trivial, show (_ : Instant) < _ by decide, ⟨_, rfl, hkey⟩, trivial, trivial,
      show (_ : Instant) < _ by decide, ⟨_, rfl, hkey⟩, trivial,
      show (_ : Instant) < _ by decide, trivial⟩
  rcases found_in_healthyRun (by decide) _ healthy (by decide) (by decide) with
    ⟨hbroken, -⟩ | ⟨e, -, hlookup, -⟩
  · exact absurd hbroken (by decide)
  · exact ⟨healthy, e, hlookup⟩

end Watch

end TenantGateway.Tenant
