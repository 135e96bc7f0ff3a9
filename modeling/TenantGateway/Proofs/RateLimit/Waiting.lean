import TenantGateway.Proofs.RateLimit.Budget
import TenantGateway.Proofs.RateLimit.Holdings

/-! How long a denied caller has to wait. The wait for a minute reaches the next one. The wait for a day
is read off the counter and rounded down, so that it can end within the last second of the day, while
the counter still lives. -/
namespace TenantGateway

/-- The part of a second that a moment has reached; a leap second stands at its end. -/
def Calendar.Timestamp.fraction (t : Calendar.Timestamp) : Nat := min t.nanos 999999999

private theorem Calendar.Timestamp.fraction_lt (t : Calendar.Timestamp) : t.fraction < 1000000000 :=
  Nat.lt_of_le_of_lt (Nat.min_le_right _ _) (by decide)

private theorem Calendar.Timestamp.unixNanos_eq (t : Calendar.Timestamp) :
    t.unixNanos = t.seconds * 1000000000 + t.fraction := rfl

namespace RateLimit
open MemoryStore

namespace Call

/-- The number of the day or minute of a call. -/
def window (c : Call) (w : LimitType) : Int := w.pick c.time.dayNumber (epochMinute c.time)

private theorem shares_iff {c e : Call} {w : LimitType} :
    c.Shares e w ↔ c.organization = e.organization ∧ c.window w = e.window w := by
  cases w with
  | daily => exact and_congr_right fun _ => date_eq_iff
  | minute => exact Iff.rfl

private theorem window_le {c e : Call} (h : c.time.unixNanos ≤ e.time.unixNanos) (w : LimitType) :
    c.window w ≤ e.window w := by
  have hfraction := c.time.fraction_lt
  have hfraction' := e.time.fraction_lt
  rw [Calendar.Timestamp.unixNanos_eq, Calendar.Timestamp.unixNanos_eq] at h
  cases w with
  | daily =>
    simp only [window, LimitType.pick, Calendar.Timestamp.dayNumber]
    omega
  | minute =>
    simp only [window, LimitType.pick, epochMinute]
    omega

/-- The same caller calls again some seconds later, and nobody has called for the organization in
between. -/
structure Retries (c : Call) (between : List Call) (seconds : Nat) (e : Call) : Prop where
  organization : e.organization = c.organization
  quota : e.quota = c.quota
  instant : e.instant = c.instant + Duration.ofSeconds seconds
  others : ∀ b ∈ between, b.organization ≠ c.organization

private theorem Retries.limit_eq {c e : Call} {between : List Call} {seconds : Nat}
    (h : c.Retries between seconds e) (w : LimitType) : e.limit w = c.limit w := by
  cases w <;> simp only [limit, h.quota]

/-- The wait for the day that a denied call is told is a second short: the day's first allowed call
came at a smaller fraction of a second, and more than a second of the day is left. -/
def Shortened (c : Call) (h : List Call) : Prop :=
  ∃ first, c.first? .daily h = some first ∧
    first.time.fraction < c.time.fraction ∧ 1 < (secondsUntilMidnight c.time).toNat

end Call

private theorem Ordered.le_last {past : List Call} {c : Call} (h : Ordered (past ++ [c])) :
    ∀ f ∈ past ++ [c], f.instant ≤ c.instant := by
  intro f hf
  rcases List.mem_append.mp hf with hf | hf
  · exact (List.pairwise_append.mp h).2.2 f hf c (List.mem_singleton_self c)
  · rw [List.mem_singleton.mp hf]
    exact Nat.le_refl _

namespace Limiter

variable {l : Limiter} {s : MemoryStore} {c e : Call} {d : Decision} {w : LimitType}
  {past between calls : List Call} {offset : Int}

/-- A full day is looked at before anything else. -/
theorem isDeniedFor_daily_of_le (l : Limiter) (hs : s.Serving)
    (hfull : c.limit .daily ≤ (count s.counters (c.key .daily) c.instant).toNat) :
    (l.call s c).1.isDeniedFor .daily = true := by
  have hday : (l.query c.organization c.quota c.time).dailyLimit ≤
      count s.counters (l.query c.organization c.quota c.time).dailyKey c.instant :=
    UInt64.le_iff_toNat_le.mpr hfull
  rw [l.call_of_check ((check_eq hs).trans (if_pos hday))]
  rfl

/-- What a denied call is told about the ends of the windows. -/
theorem resets_of_denied (hs : s.Serving) (hd : (l.call s c).1 = .answer (.ok d))
    (hw : d.exceeded = some w) :
    d.resetMinute = secondsUntilNextMinute c.time ∧
      d.resetDaily = (((live s.counters (c.key .daily) c.instant).map
        (·.remainingSeconds c.instant)).filter (0 < ·)).getD (secondsUntilMidnight c.time) := by
  rcases check_endings hs (l.query c.organization c.quota c.time) c.instant with
    ⟨-, he⟩ | ⟨-, -, he⟩ | ⟨-, -, daily, minute, -, -, he⟩ | ⟨-, he⟩
  · rw [l.call_of_check he] at hd
    cases hd
    exact ⟨rfl, rfl⟩
  · rw [l.call_of_check he] at hd
    cases hd
    exact ⟨rfl, rfl⟩
  · rw [l.call_of_check he] at hd
    cases hd
    contradiction
  · have hzero : ¬l.timeout < Duration.zero := Nat.not_lt_zero _
    simp only [call, he, settle, if_neg hzero] at hd
    contradiction

private theorem mem_of_mem_admitted (h : e ∈ (l.run calls).admitted) : e ∈ calls := by
  induction calls using List.reverseRecOn with
  | nil => exact h
  | append_singleton calls c ih =>
    rw [admitted_snoc] at h
    split at h
    · rcases List.mem_append.mp h with h | h
      · exact List.mem_append_left _ (ih h)
      · exact List.mem_append_right _ h
    · exact List.mem_append_left _ (ih h)

private theorem admitted_append (l : Limiter) (past more : List Call) :
    (l.run past).admitted <+: (l.run (past ++ more)).admitted := by
  rw [run_eq_visits, run_eq_visits, List.map_append]
  exact Visit.admitted_append _ _

private theorem wholeSeconds_since {first : Call}
    (hfirst : first.time.unixNanos = first.instant.nanos + offset)
    (hc : c.time.unixNanos = c.instant.nanos + offset) (hs : first.Shares c .daily) :
    ((first.instant + Duration.ofSeconds (secondsUntilMidnight first.time).toNat).since
        c.instant).wholeSeconds =
      if first.time.fraction < c.time.fraction then (secondsUntilMidnight c.time).toNat - 1
      else (secondsUntilMidnight c.time).toNat := by
  -- A day's counter ends where the day does, as far into the second as its first call was.
  have hday := date_eq_iff.mp hs.2
  have hlife := toNat_secondsUntilMidnight first.time
  have hleft := toNat_secondsUntilMidnight c.time
  rw [hday] at hlife
  have hdayc : c.time.dayNumber = c.time.seconds / 86400 := rfl
  -- in Unix time the counter ends at the day's end and the fraction of its first call
  have hfraction := c.time.fraction_lt
  have hfraction' := first.time.fraction_lt
  rw [Calendar.Timestamp.unixNanos_eq] at hfirst hc
  simp only [Instant.since, Duration.wholeSeconds, Instant.nanos_add, Duration.ofSeconds]
  by_cases hlt : first.time.fraction < c.time.fraction
  · rw [if_pos hlt]
    omega
  · rw [if_neg hlt]
    omega

private theorem toNat_getD_filter (n other : UInt64) :
    (((some n).filter (0 < ·)).getD other).toNat = if n.toNat = 0 then other.toNat else n.toNat := by
  by_cases hn : 0 < n
  · have hpos : n.toNat ≠ 0 := Nat.ne_of_gt (UInt64.lt_iff_toNat_lt.mp hn)
    rw [Option.filter_some, if_pos (decide_eq_true hn), if_neg hpos, Option.getD_some]
  · have hzero : n.toNat = 0 :=
      Nat.eq_zero_of_not_pos fun hpos => hn (UInt64.lt_iff_toNat_lt.mpr hpos)
    rw [Option.filter_some, if_neg (by simpa using hn), if_pos hzero, Option.getD_none]

private theorem toNat_retryAfter_daily {h : List Call}
    (hh : l.Holds (fun c => c.time.unixNanos = c.instant.nanos + offset) c.instant s h)
    (hmem : ∀ f ∈ h, f.time.unixNanos = f.instant.nanos + offset)
    (hc : c.time.unixNanos = c.instant.nanos + offset) (hlimit : 0 < c.limit .daily)
    (hd : (l.call s c).1 = .answer (.ok d)) (hf : d.Follows c (fun w => c.tally w h))
    (hw : d.exceeded = some .daily) :
    ∃ first, c.first? .daily h = some first ∧
      d.retryAfter.toNat =
        if first.time.fraction < c.time.fraction ∧ 1 < (secondsUntilMidnight c.time).toNat then
          (secondsUntilMidnight c.time).toNat - 1
        else (secondsUntilMidnight c.time).toNat := by
  have hfull := hf.limit_le hw
  obtain ⟨g, hg, -⟩ : ∃ g, live s.counters (c.key .daily) c.instant = some g ∧
      g.value.toNat = c.tally .daily h := by
    have hshown := hh.tallied .daily c hc (Nat.le_refl _)
    rw [shown, if_neg (Nat.ne_of_gt (Nat.lt_of_lt_of_le hlimit hfull))] at hshown
    exact Option.map_eq_some_iff.mp hshown
  obtain ⟨first, hfirst, hdue⟩ := hh.dated .daily c g hc (Nat.le_refl _) hg
  obtain ⟨hin, hshares⟩ := Call.first?_eq_some hfirst
  have hwhole := wholeSeconds_since (hmem first hin) hc hshares
  obtain ⟨hone, hday⟩ := secondsUntilMidnight_bounds c.time
  have hremaining : (g.remainingSeconds c.instant).toNat =
      if first.time.fraction < c.time.fraction then (secondsUntilMidnight c.time).toNat - 1
      else (secondsUntilMidnight c.time).toNat := by
    rw [← hwhole, Counter.remainingSeconds, hdue, UInt64.toNat_ofNat', Nat.mod_eq_of_lt]
    · rfl
    · rw [show l.lifetime first .daily = secondsUntilMidnight first.time from rfl, hwhole]
      split <;> omega
  refine ⟨first, hfirst, ?_⟩
  rw [Decision.retryAfter, hw]
  change d.resetDaily.toNat = _
  rw [(resets_of_denied hh.serving hd hw).2, hg, Option.map_some, toNat_getD_filter, hremaining]
  -- nothing left of the counter's last second is told as the second that is left of the day
  by_cases hlt : first.time.fraction < c.time.fraction
  · simp only [hlt, if_true, true_and]
    split <;> split <;> omega
  · simp only [hlt, if_false, false_and]
    split <;> omega

deriving instance DecidableEq for Outcome

/-- How a call ends that comes after others. -/
def outcomeAfter (l : Limiter) (calls : List Call) (c : Call) : Outcome :=
  (l.call (l.run calls).store c).1

private theorem Outcome.isDeniedFor_iff {o : Outcome} :
    o.isDeniedFor w = true ↔ ∃ d, o = .answer (.ok d) ∧ d.exceeded = some w := by
  match o with
  | .answer (.ok d) => simp [isDeniedFor]
  | .answer (.error e) => simp [isDeniedFor]
  | .deadlineOverflow => simp [isDeniedFor]

/-- A call is denied for the window `w`, others follow, and `e` is the last of them. The clocks advance
in step, a minute's counter outlives the minute, and the limit is not zero. -/
structure Denial (l : Limiter) (past : List Call) (c : Call) (d : Decision) (w : LimitType)
    (between : List Call) (e : Call) : Prop where
  lifetime : 60 ≤ l.minuteTtl
  order : Ordered (past ++ [c] ++ between ++ [e])
  inStep : InStep (past ++ [c] ++ between ++ [e])
  answer : l.outcomeAfter past c = .answer (.ok d)
  exceeded : d.exceeded = some w
  limit : 0 < c.limit w

namespace Denial

variable {n : Nat}

private theorem order_denied (h : l.Denial past c d w between e) : Ordered (past ++ [c]) :=
  (List.pairwise_append.mp (List.pairwise_append.mp h.order).1).1

private theorem mem_denied (past between : List Call) (c e : Call) :
    c ∈ past ++ [c] ++ between ++ [e] := by
  simp

private theorem mem_last (past between : List Call) (c e : Call) :
    e ∈ past ++ [c] ++ between ++ [e] := by
  simp

/-- Of the calls before the retry, only those up to the denied one can count together with it. -/
theorem mem_of_shares (hretry : c.Retries between n e) {f : Call}
    (hf : f ∈ past ++ [c] ++ between) (hs : f.Shares e w) : f ∈ past ++ [c] := by
  rcases List.mem_append.mp hf with hf | hf
  · exact hf
  · have horganization := (Call.shares_iff.mp hs).1
    exact absurd (horganization.trans hretry.organization) (hretry.others f hf)

/-- Nobody has called in a later window than that of the denied call. -/
theorem tally_eq_zero (h : l.Denial past c d w between e) (hretry : c.Retries between n e)
    {v : LimitType} (hlater : c.window v < e.window v) :
    e.tally v (l.run (past ++ [c] ++ between)).admitted = 0 := by
  obtain ⟨offset, hoff⟩ := h.inStep
  refine List.countP_eq_zero.mpr fun f hf hs => ?_
  rw [decide_eq_true_eq] at hs
  have hbefore : f ∈ past ++ [c] := mem_of_shares hretry (mem_of_mem_admitted hf) hs
  have hunix : f.time.unixNanos ≤ c.time.unixNanos := by
    have hle := h.order_denied.le_last f hbefore
    rw [Instant.le_def] at hle
    rw [hoff f (List.mem_append_left _ (List.mem_append_left _ hbefore)),
      hoff c (mem_denied past between c e)]
    omega
  have hwindow := Call.window_le hunix v
  rw [(Call.shares_iff.mp hs).2] at hwindow
  exact absurd hlater (Int.not_lt.mpr hwindow)

/-- In a later window the call is not denied for that window. -/
theorem not_isDeniedFor_of_later (h : l.Denial past c d w between e)
    (hretry : c.Retries between n e) (hlater : c.window w < e.window w) :
    (l.outcomeAfter (past ++ [c] ++ between) e).isDeniedFor w = false := by
  refine Bool.eq_false_iff.mpr fun hdenied => ?_
  obtain ⟨d', hd', hw'⟩ := Outcome.isDeniedFor_iff.mp hdenied
  obtain ⟨offset, hoff⟩ := h.inStep
  obtain ⟨-, hf⟩ := follows_of_answer (l.outlives_of_inStep h.lifetime offset) hoff h.order hd'
  have hle := hf.limit_le hw'
  rw [h.tally_eq_zero hretry hlater] at hle
  rw [hretry.limit_eq] at hle
  exact Nat.not_lt.mpr hle h.limit

/-- The wall clock has moved on by the seconds of the wait. -/
theorem unixNanos_retry (h : l.Denial past c d w between e) (hretry : c.Retries between n e) :
    e.time.unixNanos = c.time.unixNanos + n * 1000000000 := by
  obtain ⟨offset, hoff⟩ := h.inStep
  rw [hoff e (mem_last past between c e), hoff c (mem_denied past between c e), hretry.instant,
    Instant.nanos_add]
  simp only [Duration.ofSeconds]
  omega

private theorem seconds_retry (h : l.Denial past c d w between e) (hretry : c.Retries between n e) :
    e.time.seconds = c.time.seconds + n := by
  have hunix := h.unixNanos_retry hretry
  have hfraction := c.time.fraction_lt
  have hfraction' := e.time.fraction_lt
  rw [Calendar.Timestamp.unixNanos_eq, Calendar.Timestamp.unixNanos_eq] at hunix
  omega

/-- What the denied call has found. -/
theorem exists_holds (h : l.Denial past c d w between e) : ∃ offset : Int,
    (∀ f ∈ past ++ [c] ++ between ++ [e], f.time.unixNanos = f.instant.nanos + offset) ∧
      l.Holds (fun f => f.time.unixNanos = f.instant.nanos + offset) c.instant (l.run past).store
        (l.run past).admitted ∧
      d.Follows c (fun w => c.tally w (l.run past).admitted) := by
  obtain ⟨offset, hoff⟩ := h.inStep
  exact ⟨offset, hoff, follows_of_answer (l.outlives_of_inStep h.lifetime offset)
    (fun f hf => hoff f (List.mem_append_left _ (List.mem_append_left _ hf))) h.order_denied
    h.answer⟩

/-- What the wait for a day comes to. -/
theorem wait_daily (h : l.Denial past c d .daily between e) :
    (c.Shortened (l.run past).admitted →
      d.retryAfter.toNat + 1 = (secondsUntilMidnight c.time).toNat) ∧
    (¬c.Shortened (l.run past).admitted →
      d.retryAfter.toNat = (secondsUntilMidnight c.time).toNat) := by
  obtain ⟨offset, hoff, hholds, hf⟩ := h.exists_holds
  have hmem : ∀ f ∈ (l.run past).admitted, f.time.unixNanos = f.instant.nanos + offset := by
    intro f hf
    have hpast := mem_of_mem_admitted hf
    exact hoff f (by simp [hpast])
  obtain ⟨first, hfirst, hwait⟩ := toNat_retryAfter_daily hholds hmem
    (hoff c (mem_denied past between c e)) h.limit h.answer hf h.exceeded
  constructor
  · rintro ⟨first', hfirst', hboth⟩
    have hsame : first' = first := Option.some.inj (hfirst'.symm.trans hfirst)
    rw [hsame] at hboth
    rw [if_pos hboth] at hwait
    omega
  · intro hshort
    rw [if_neg fun hboth => hshort ⟨first, hfirst, hboth⟩] at hwait
    exact hwait

private theorem later_of_midnight (h : l.Denial past c d w between e)
    (hretry : c.Retries between (secondsUntilMidnight c.time).toNat e) :
    c.window .daily < e.window .daily := by
  have hseconds := h.seconds_retry hretry
  have hleft := toNat_secondsUntilMidnight c.time
  simp only [Call.window, LimitType.pick]
  simp only [Calendar.Timestamp.dayNumber] at hleft ⊢
  omega

private theorem later_of_nextMinute (h : l.Denial past c d w between e)
    (hretry : c.Retries between (secondsUntilNextMinute c.time).toNat e) :
    c.window .minute < e.window .minute := by
  have hseconds := h.seconds_retry hretry
  have hleft := toNat_secondsUntilNextMinute c.time
  simp only [Call.window, LimitType.pick]
  simp only [epochMinute] at hleft ⊢
  omega

private theorem wait_minute (h : l.Denial past c d .minute between e) :
    d.retryAfter = secondsUntilNextMinute c.time := by
  obtain ⟨offset, -, hholds, -⟩ := h.exists_holds
  rw [Decision.retryAfter, h.exceeded]
  exact (resets_of_denied hholds.serving h.answer h.exceeded).1

/-- A second before the end of the day the call is denied for the day once more, unless the store has
broken in between. -/
theorem denied_again (h : l.Denial past c d .daily between e)
    (hretry : c.Retries between n e) (hn : n + 1 = (secondsUntilMidnight c.time).toNat) :
    (l.run (past ++ [c] ++ between)).store.Broken ∨
      (l.outcomeAfter (past ++ [c] ++ between) e).isDeniedFor .daily = true := by
  obtain ⟨offset, hoff, -, hf⟩ := h.exists_holds
  have hsame : e.Shares c .daily := by
    refine Call.shares_iff.mpr ⟨hretry.organization, ?_⟩
    have hseconds := h.seconds_retry hretry
    have hleft := toNat_secondsUntilMidnight c.time
    simp only [Call.window, LimitType.pick]
    simp only [Calendar.Timestamp.dayNumber] at hleft ⊢
    omega
  have hfull : c.limit .daily ≤ c.tally .daily (l.run past).admitted := hf.limit_le h.exceeded
  have hmore : c.tally .daily (l.run past).admitted ≤
      c.tally .daily (l.run (past ++ [c] ++ between)).admitted := by
    rw [List.append_assoc]
    exact (l.admitted_append past _).sublist.countP_le
  have hn : ∀ f ∈ past ++ [c] ++ between, f.instant ≤ e.instant :=
    fun f hf => h.order.le_last f (List.mem_append_left _ hf)
  rcases holds_or_broken_run (l.outlives_of_inStep h.lifetime offset) (past ++ [c] ++ between)
    (fun f hf => hoff f (List.mem_append_left _ hf)) (List.pairwise_append.mp h.order).1 hn with
    hholds | hbroken
  · right
    refine l.isDeniedFor_daily_of_le hholds.serving ?_
    rw [(hholds.tallied .daily).count_eq (hoff e (mem_last past between c e)) (Nat.le_refl _),
      ← Call.tally_eq_of_shares hsame.symm, hretry.limit_eq]
    exact Nat.le_trans hfull hmore
  · exact .inl hbroken

end Denial

/-- After the wait that a denied call is told, nobody having called for the organization, it is not
denied for the same window, unless the wait was shortened. Then it is a second too short: the call is
denied once more, and a second later it is not. -/
theorem retryAfter_of_denial (h : l.Denial past c d w between e) :
    (¬(w = .daily ∧ c.Shortened (l.run past).admitted) →
      c.Retries between d.retryAfter.toNat e →
        (l.outcomeAfter (past ++ [c] ++ between) e).isDeniedFor w = false) ∧
    (w = .daily → c.Shortened (l.run past).admitted →
      (c.Retries between (d.retryAfter.toNat + 1) e →
        (l.outcomeAfter (past ++ [c] ++ between) e).isDeniedFor w = false) ∧
      (c.Retries between d.retryAfter.toNat e →
        (l.run (past ++ [c] ++ between)).store.Broken ∨
          (l.outcomeAfter (past ++ [c] ++ between) e).isDeniedFor w = true)) := by
  cases w with
  | daily =>
    obtain ⟨hshort, hwhole⟩ := h.wait_daily
    refine ⟨fun hnot hretry => ?_, fun _ hcase => ⟨fun hretry => ?_, fun hretry => ?_⟩⟩
    · rw [hwhole fun hcase => hnot ⟨rfl, hcase⟩] at hretry
      exact h.not_isDeniedFor_of_later hretry (h.later_of_midnight hretry)
    · rw [hshort hcase] at hretry
      exact h.not_isDeniedFor_of_later hretry (h.later_of_midnight hretry)
    · exact h.denied_again hretry (hshort hcase)
  | minute =>
    refine ⟨fun _ hretry => ?_, fun hw => by contradiction⟩
    rw [h.wait_minute] at hretry
    exact h.not_isDeniedFor_of_later hretry (h.later_of_nextMinute hretry)

-- A call some milliseconds after 2024-03-09 23:59:50, ten seconds before midnight.
private def lateCall (millis : Nat) (h : millis < 10000) : Call :=
  { organization := "org_1"
    quota := ⟨5, 1, 0⟩
    time :=
      { seconds := 1710028790 + (millis / 1000 : Nat)
        nanos := millis % 1000 * 1000000
        inRange := by
          unfold Calendar.firstSecond Calendar.lastSecond
          omega
        nanos_lt := .inl (by omega) }
    instant := ⟨millis * 1000000⟩ }

private def lateLimiter : Limiter := ⟨.failOpen, .ofMillis 100, 120⟩

private theorem denial_lateCall : lateLimiter.Denial [lateCall 0 (by decide)]
    (lateCall 8500 (by decide)) ⟨false, some .daily, 1, 1, 1, 5, 0, 4, 1, 2⟩ .daily []
    (lateCall 9500 (by decide)) where
  lifetime := by decide
  order := by simp [Ordered, lateCall]
  inStep := ⟨1710028790000000000, by decide⟩
  answer := by decide +kernel
  exceeded := rfl
  limit := by decide

private theorem retries_lateCall :
    (lateCall 8500 (by decide)).Retries [] 1 (lateCall 9500 (by decide)) where
  organization := rfl
  quota := rfl
  instant := rfl
  others := by simp

/-- Denied a second and a half before midnight, and again half a second before. -/
theorem retryAfter_of_denial_before_midnight :
    lateLimiter.Denial [lateCall 0 (by decide)] (lateCall 8500 (by decide))
        ⟨false, some .daily, 1, 1, 1, 5, 0, 4, 1, 2⟩ .daily [] (lateCall 9500 (by decide)) ∧
      (lateLimiter.outcomeAfter [lateCall 0 (by decide), lateCall 8500 (by decide)]
        (lateCall 9500 (by decide))).isDeniedFor .daily = true := by
  refine ⟨denial_lateCall, ?_⟩
  have hshort : (lateCall 8500 (by decide)).Shortened
      (lateLimiter.run [lateCall 0 (by decide)]).admitted :=
    ⟨lateCall 0 (by decide), by decide +kernel, by decide, by decide⟩
  rcases ((retryAfter_of_denial denial_lateCall).2 rfl hshort).2 retries_lateCall with
    hbroken | hdenied
  · exact absurd hbroken.poisoned (by decide +kernel)
  · exact hdenied

/-- The wait that a denied call is told does not always suffice. -/
theorem not_retryAfter_suffices :
    ¬∀ (l : Limiter) past c d w between e, l.Denial past c d w between e →
      c.Retries between d.retryAfter.toNat e →
        (l.outcomeAfter (past ++ [c] ++ between) e).isDeniedFor w = false := by
  intro hall
  have hdenied : (lateLimiter.outcomeAfter [lateCall 0 (by decide), lateCall 8500 (by decide)]
      (lateCall 9500 (by decide))).isDeniedFor .daily = true := by decide +kernel
  have hnot := hall _ _ _ _ _ _ _ denial_lateCall retries_lateCall
  exact absurd (hdenied.symm.trans hnot) (by decide)

end Limiter

end RateLimit

end TenantGateway
