import TenantGateway.Proofs.RateLimit.Calls
import Mathlib.Data.List.Induction

/-! A limiter over counters in memory decides as if it remembered every call that it has allowed. The
store knows nothing of calls: what carries the argument is that, at any instant from now on, the live
counter of a window holds the number of allowed calls in it. -/
namespace TenantGateway.RateLimit
open MemoryStore

/-- A counter made for one of the expected calls outlives its window, as far as expected calls can
see. -/
def Limiter.Outlives (l : Limiter) (expected : Call → Prop) (w : LimitType) : Prop :=
  ∀ e c, expected e → expected c → e.Shares c w → e.instant ≤ c.instant →
    c.instant < e.instant + Duration.ofSeconds (l.lifetime e w).toNat

/-- A count as a counter shows it: there is no counter for zero. -/
def shown (n : Nat) : Option Nat := if n = 0 then none else some n

/-- The store shows every expected call, at any instant from `now` on, how many calls of the history
count together with it. -/
def Tallied (expected : Call → Prop) (w : LimitType) (now : Instant) (s : MemoryStore)
    (h : List Call) : Prop :=
  ∀ c, expected c → now ≤ c.instant →
    (live s.counters (c.key w) c.instant).map (·.value.toNat) = shown (c.tally w h)

/-- A tally that holds from now on holds later. -/
theorem Tallied.mono {expected : Call → Prop} {w : LimitType} {now later : Instant}
    {s : MemoryStore} {h : List Call} (ht : Tallied expected w now s h) (hle : now ≤ later) :
    Tallied expected w later s h :=
  fun c hc hl => ht c hc (Nat.le_trans hle hl)

/-- A new store has the tally of no calls. -/
theorem tallied_empty (expected : Call → Prop) (w : LimitType) (now : Instant) :
    Tallied expected w now .empty [] := by
  intro c _ _
  simp [live, MemoryStore.empty, Call.tally, shown]

variable {expected : Call → Prop} {w : LimitType} {now : Instant} {s : MemoryStore} {h : List Call}

/-- An expected call reads its tally. -/
theorem Tallied.count_eq (ht : Tallied expected w now s h) {c : Call} (hc : expected c)
    (hl : now ≤ c.instant) : (count s.counters (c.key w) c.instant).toNat = c.tally w h := by
  have hv := ht c hc hl
  unfold shown at hv
  unfold count
  cases hg : live s.counters (c.key w) c.instant with
  | none =>
    rw [hg] at hv
    split at hv
    next hz => rw [hz]; rfl
    next => contradiction
  | some g =>
    rw [hg] at hv
    split at hv
    · contradiction
    · exact Option.some.inj hv

private theorem Tallied.purged (ht : Tallied expected w now s h) :
    Tallied expected w now (s.purged now) h := by
  intro c hc hl
  rw [MemoryStore.purged, live_purge _ _ hl]
  exact ht c hc hl

private theorem live_unique {m : Std.ExtTreeMap String Counter} {key : String} {a b : Counter}
    {now later : Instant} (ha : live m key now = some a) (hb : live m key later = some b) : a = b := by
  have h1 := (Option.filter_eq_some_iff.mp ha).1
  have h2 := (Option.filter_eq_some_iff.mp hb).1
  exact Option.some.inj (h1.symm.trans h2)

private theorem shown_bumped (l : Limiter) (hout : l.Outlives expected w)
    (ht : Tallied expected w now s h) {e c : Call} (he : expected e) (hn : now ≤ e.instant)
    (hc : expected c) (hec : e.instant ≤ c.instant) (hs : e.Shares c w) {next : Counter}
    (hv : next.value.toNat = (count s.counters (e.key w) e.instant).toNat + 1)
    (hx : next.expiresAt = ((live s.counters (e.key w) e.instant).map Counter.expiresAt).getD
      (e.instant + Duration.ofSeconds (l.lifetime e w).toNat)) :
    (if next.isLive c.instant then some next else none).map (·.value.toNat) =
      shown (c.tally w (h ++ [e])) := by
  have hcount := ht.count_eq he hn
  have heq := Call.tally_eq_of_shares hs h
  have hlive : next.isLive c.instant = true := by
    have hc' := ht c hc (Nat.le_trans hn hec)
    rw [← Call.key_eq_iff.mpr hs, ← heq] at hc'
    have hself := ht e he hn
    rw [Counter.isLive, decide_eq_true_eq, hx]
    cases hg : live s.counters (e.key w) e.instant with
    | none => exact hout e c he hc hs hec
    | some g =>
      rw [hg] at hself
      rw [← hself] at hc'
      obtain ⟨g', hg', _⟩ := Option.map_eq_some_iff.mp hc'
      have hsame := live_unique hg hg'
      subst hsame
      exact of_decide_eq_true (Option.filter_eq_some_iff.mp hg').2
  rw [hlive, Call.tally_snoc, if_pos hs, ← heq, shown, if_neg (Nat.succ_ne_zero _), if_pos rfl,
    Option.map_some, hv, hcount]

/-- After a counted call, those that share its window find the new counter, and others what they
found. -/
theorem live_counted_key {e c : Call} (hec : e.instant ≤ c.instant) {q : CounterQuery}
    {daily minute : Counter} (hd : q.dailyKey = e.key .daily) (hm : q.minuteKey = e.key .minute) :
    live (s.counted q e.instant daily minute).counters (c.key w) c.instant =
      if e.Shares c w then
        (if (w.pick daily minute).isLive c.instant then some (w.pick daily minute) else none)
      else live s.counters (c.key w) c.instant := by
  have hdaily := Call.key_ne_of_window_ne (w := .daily) (v := .minute) (by decide) e c
  have hminute := Call.key_ne_of_window_ne (w := .minute) (v := .daily) (by decide) e c
  rw [live_counted hec, hd, hm]
  by_cases hs : e.Shares c w
  · have hk := Call.key_eq_iff.mpr hs
    rw [if_pos hs]
    cases w with
    | daily => rw [if_neg hminute, if_pos hk, LimitType.pick]
    | minute => rw [if_pos hk, LimitType.pick]
  · have hk := mt Call.key_eq_iff.mp hs
    rw [if_neg hs]
    cases w with
    | daily => rw [if_neg hminute, if_neg hk]
    | minute => rw [if_neg hk, if_neg hdaily]

/-- What a counted call shows under the name of a day's counter. -/
theorem live_counted_daily (l : Limiter) (c e : Call) (daily minute : Counter) {later : Instant}
    (hle : c.instant ≤ later) :
    live (s.counted (l.query c.organization c.quota c.time) c.instant daily minute).counters
        (e.key .daily) later =
      if c.key .daily = e.key .daily then (if daily.isLive later then some daily else none)
      else live s.counters (e.key .daily) later := by
  have hmin : c.key .minute ≠ e.key .daily := Call.key_ne_of_window_ne (by decide) c e
  exact (live_counted hle (e.key .daily)).trans (if_neg hmin)

/-- A counted call that the limiter makes keeps the tally of a window that its counters outlive. -/
theorem Tallied.counted (l : Limiter) (hout : l.Outlives expected w)
    (ht : Tallied expected w now s h) {e : Call} (he : expected e) (hn : now ≤ e.instant)
    {q : CounterQuery} {daily minute : Counter} (hd : q.dailyKey = e.key .daily)
    (hm : q.minuteKey = e.key .minute)
    (hv : (w.pick daily minute).value.toNat = (count s.counters (e.key w) e.instant).toNat + 1)
    (hx : (w.pick daily minute).expiresAt =
      ((live s.counters (e.key w) e.instant).map Counter.expiresAt).getD
        (e.instant + Duration.ofSeconds (l.lifetime e w).toNat)) :
    Tallied expected w e.instant (s.counted q e.instant daily minute) (h ++ [e]) := by
  intro c hc hec
  rw [live_counted_key hec hd hm]
  by_cases hs : e.Shares c w
  · rw [if_pos hs]
    exact shown_bumped l hout ht he hn hc hec hs hv hx
  · rw [if_neg hs, Call.tally_snoc, if_neg hs, Nat.add_zero]
    exact ht c hc (Nat.le_trans hn hec)

/-- What a decision has to say about a call, when `n` requests count with it in each window. -/
structure Decision.Follows (d : Decision) (c : Call) (n : LimitType → Nat) : Prop where
  exceeded : d.exceeded =
    if c.limit .daily ≤ n .daily then some .daily
    else if c.limit .minute ≤ n .minute then some .minute
    else none
  allowed : d.allowed = d.exceeded.isNone
  dailyCount : d.dailyCount.toNat = n .daily + if d.allowed then 1 else 0
  minuteCount : d.minuteCount.toNat = n .minute + if d.allowed then 1 else 0
  dailyLimit : d.dailyLimit.toNat = c.limit .daily
  minuteLimit : d.minuteLimit.toNat = c.limit .minute
  dailyRemaining : d.dailyRemaining.toNat = c.limit .daily - d.dailyCount.toNat
  minuteRemaining : d.minuteRemaining.toNat = c.limit .minute - d.minuteCount.toNat
  /-- Counting an allowed call does not wrap round. -/
  unwrapped : d.allowed = true → ∀ w, n w + 1 < 2 ^ 64

/-- What remains of a limit does not fall below zero. -/
theorem toNat_remaining (limit n : UInt64) :
    (Decision.remaining limit n).toNat = limit.toNat - n.toNat := by
  unfold Decision.remaining
  split
  next hle => exact UInt64.toNat_sub_of_le _ _ hle
  next hle =>
    rw [UInt64.not_le, UInt64.lt_iff_toNat_lt] at hle
    rw [UInt64.toNat_zero]
    omega

namespace Limiter

/-- The store is asked with the daily limit of the call. -/
theorem toNat_dailyLimit (l : Limiter) (c : Call) :
    (l.query c.organization c.quota c.time).dailyLimit.toNat = c.limit .daily := rfl

/-- The store is asked with the minute's limit of the call, burst allowance included. -/
theorem toNat_minuteLimit (l : Limiter) (c : Call) :
    (l.query c.organization c.quota c.time).minuteLimit.toNat = c.limit .minute := by
  have hsize : UInt64.size = 2 ^ 64 := rfl
  rw [query, Quota.minuteCeiling, Quota.toNat_addCapped, hsize, Call.limit]

/-- A reply of the store decides the call. -/
theorem call_of_check (l : Limiter) {c : Call} {reply : CounterReply} {t : MemoryStore}
    (hcheck : s.check (l.query c.organization c.quota c.time) c.instant = (.ok reply, t)) :
    l.call s c =
      (.answer (.ok (.ofReply (l.query c.organization c.quota c.time) reply c.time)), t) := by
  have hzero : ¬ l.timeout < Duration.zero := Nat.not_lt_zero _
  simp only [call, hcheck, settle, if_neg hzero]

private theorem follows_ofReply (l : Limiter) {c : Call} {reply : CounterReply}
    {n : LimitType → Nat}
    (he : reply.outcome.exceeded =
      if c.limit .daily ≤ n .daily then some .daily
      else if c.limit .minute ≤ n .minute then some .minute
      else none)
    (hd : reply.dailyCount.toNat = n .daily + if reply.outcome.exceeded.isNone then 1 else 0)
    (hm : reply.minuteCount.toNat = n .minute + if reply.outcome.exceeded.isNone then 1 else 0) :
    (Decision.ofReply (l.query c.organization c.quota c.time) reply c.time).Follows c n where
  exceeded := he
  allowed := rfl
  dailyCount := hd
  minuteCount := hm
  dailyLimit := l.toNat_dailyLimit c
  minuteLimit := l.toNat_minuteLimit c
  dailyRemaining := (toNat_remaining _ _).trans (by rw [toNat_dailyLimit]; rfl)
  minuteRemaining := (toNat_remaining _ _).trans (by rw [toNat_minuteLimit]; rfl)
  unwrapped := by
    intro ha w
    change reply.outcome.exceeded.isNone = true at ha
    rw [if_pos ha] at hd hm
    have hdmax := reply.dailyCount.toNat_lt
    have hmmax := reply.minuteCount.toNat_lt
    cases w <;> omega

/-- A call is decided by the counts that it reads. Either it is refused, which changes no live
counter, or it leaves counters that are one up. -/
def Decides (l : Limiter) (s : MemoryStore) (c : Call) : Prop :=
  ∃ d, (l.call s c).1 = .answer (.ok d) ∧
    d.Follows c (fun w => (count s.counters (c.key w) c.instant).toNat) ∧
    ((d.allowed = false ∧ (l.call s c).2 = s.purged c.instant) ∨
      (d.allowed = true ∧ ∃ daily minute : Counter,
        (l.call s c).2 =
          s.counted (l.query c.organization c.quota c.time) c.instant daily minute ∧
        ∀ w : LimitType,
          (w.pick daily minute).value.toNat =
            (count s.counters (c.key w) c.instant).toNat + 1 ∧
          (w.pick daily minute).expiresAt =
            ((live s.counters (c.key w) c.instant).map Counter.expiresAt).getD
              (c.instant + Duration.ofSeconds (l.lifetime c w).toNat)))

/-- A call without a decision has broken off and leaves a broken store, since the clock cannot
represent a deadline. -/
def Breaks (l : Limiter) (s : MemoryStore) (c : Call) : Prop :=
  ¬l.InRange c ∧ l.call s c = (.deadlineOverflow, { s.purged c.instant with poisoned := true })

/-- Over a store that serves, a call is decided or breaks off. -/
theorem decides_or_breaks (l : Limiter) (hs : s.Serving) (c : Call) :
    l.Decides s c ∨ l.Breaks s c := by
  have hdlim := l.toNat_dailyLimit c
  have hmlim := l.toNat_minuteLimit c
  rcases check_endings hs (l.query c.organization c.quota c.time) c.instant with
    ⟨hd, he⟩ | ⟨hd, hm, he⟩ | ⟨hd, hm, daily, minute, hb, hb', he⟩ | ⟨hnone, he⟩
  · left
    rw [Decides, l.call_of_check he]
    rw [UInt64.le_iff_toNat_le, hdlim] at hd
    exact ⟨_, rfl, l.follows_ofReply (if_pos hd).symm rfl rfl, .inl ⟨rfl, rfl⟩⟩
  · left
    rw [Decides, l.call_of_check he]
    rw [UInt64.lt_iff_toNat_lt, hdlim] at hd
    rw [UInt64.le_iff_toNat_le, hmlim] at hm
    refine ⟨_, rfl, l.follows_ofReply ?_ rfl rfl, .inl ⟨rfl, rfl⟩⟩
    exact ((if_neg (Nat.not_le.mpr hd)).trans (if_pos hm)).symm
  · left
    rw [Decides, l.call_of_check he]
    have hnext : ∀ w : LimitType,
        (w.pick daily minute).value.toNat = (count s.counters (c.key w) c.instant).toNat + 1 ∧
        (w.pick daily minute).expiresAt =
          ((live s.counters (c.key w) c.instant).map Counter.expiresAt).getD
            (c.instant + Duration.ofSeconds (l.lifetime c w).toNat) := by
      intro w
      cases w with
      | daily => exact ⟨value_of_bump hd hb, expiresAt_of_bump hb⟩
      | minute => exact ⟨value_of_bump hm hb', expiresAt_of_bump hb'⟩
    rw [UInt64.lt_iff_toNat_lt, hdlim] at hd
    rw [UInt64.lt_iff_toNat_lt, hmlim] at hm
    refine ⟨_, rfl, l.follows_ofReply ?_ (hnext .daily).1 (hnext .minute).1,
      .inr ⟨rfl, daily, minute, rfl, hnext⟩⟩
    exact ((if_neg (Nat.not_le.mpr hd)).trans (if_neg (Nat.not_le.mpr hm))).symm
  · right
    constructor
    · intro hr
      rcases hnone with hnone | hnone
      · exact not_isSome_of_bump_eq_none hnone (hr .daily)
      · exact not_isSome_of_bump_eq_none hnone (hr .minute)
    · have hzero : ¬l.timeout < Duration.zero := Nat.not_lt_zero _
      simp only [call, he, settle, if_neg hzero]

/-- In the range of the clock, no call breaks off. -/
theorem call_cases (l : Limiter) (hs : s.Serving) {c : Call} (hr : l.InRange c) :
    l.Decides s c :=
  (l.decides_or_breaks hs c).resolve_right fun hbreaks => hbreaks.1 hr

/-- A decided call keeps the tally of every window that the counters outlive. -/
theorem Decides.tallied {l : Limiter} {c : Call} (hdecides : l.Decides s c)
    (hout : l.Outlives expected w) (ht : Tallied expected w now s h) (hc : expected c)
    (hn : now ≤ c.instant) :
    Tallied expected w c.instant (l.call s c).2
      (if (l.call s c).1.isAllowed then h ++ [c] else h) := by
  obtain ⟨d, hd, _, ⟨ha, he⟩ | ⟨ha, daily, minute, he, hnext⟩⟩ := hdecides
  · rw [hd, he, Outcome.isAllowed, if_neg (by rw [ha]; decide)]
    exact (ht.mono hn).purged
  · rw [hd, he, Outcome.isAllowed, if_pos ha]
    exact ht.counted l hout hc hn rfl rfl (hnext w).1 (hnext w).2

/-- A decided call leaves a store that serves. -/
theorem Decides.serving {l : Limiter} {c : Call} (hdecides : l.Decides s c) (hs : s.Serving) :
    (l.call s c).2.Serving := by
  obtain ⟨d, _, _, ⟨_, he⟩ | ⟨_, _, _, he, _⟩⟩ := hdecides
  · rw [he]
    exact ⟨hs.available, hs.sound⟩
  · rw [he]
    exact ⟨hs.available, hs.sound⟩

/-- A call in the range of the clock keeps the tally of every window that the counters outlive. -/
theorem tallied_call (l : Limiter) (hs : s.Serving) (hout : l.Outlives expected w)
    (ht : Tallied expected w now s h) {c : Call} (hc : expected c) (hn : now ≤ c.instant)
    (hr : l.InRange c) :
    Tallied expected w c.instant (l.call s c).2
      (if (l.call s c).1.isAllowed then h ++ [c] else h) :=
  (l.call_cases hs hr).tallied hout ht hc hn

/-- In the range of the clock the store goes on serving. -/
theorem serving_call (l : Limiter) (hs : s.Serving) {c : Call} (hr : l.InRange c) :
    (l.call s c).2.Serving := (l.call_cases hs hr).serving hs

private theorem serving_run (l : Limiter) (calls : List Call) (hr : ∀ c ∈ calls, l.InRange c) :
    (l.run calls).store.Serving := by
  induction calls using List.reverseRecOn with
  | nil => exact serving_empty
  | append_singleton calls c ih =>
    rw [run_snoc]
    exact l.serving_call (ih fun e he => hr e (List.mem_append_left _ he)) (hr c (by simp))

/-- After any calls the store shows the history of those that were allowed. -/
theorem tallied_run (l : Limiter) (hout : l.Outlives expected w) (calls : List Call)
    (hexp : ∀ c ∈ calls, expected c) (hord : Ordered calls) (hr : ∀ c ∈ calls, l.InRange c)
    (hn : ∀ c ∈ calls, c.instant ≤ now) :
    Tallied expected w now (l.run calls).store (l.run calls).admitted := by
  induction calls using List.reverseRecOn generalizing now with
  | nil => exact tallied_empty expected w now
  | append_singleton calls c ih =>
    have hin : ∀ e ∈ calls, e ∈ calls ++ [c] := fun e he => List.mem_append_left _ he
    have hlast : c ∈ calls ++ [c] := by simp
    obtain ⟨hpast, _, hle⟩ := List.pairwise_append.mp hord
    have hprev := ih (fun e he => hexp e (hin e he)) hpast (fun e he => hr e (hin e he))
      (fun e he => hle e he c (List.mem_singleton_self c))
    rw [run_snoc]
    exact (l.tallied_call (l.serving_run calls fun e he => hr e (hin e he)) hout hprev
      (hexp c hlast) (Nat.le_refl _) (hr c hlast)).mono (hn c hlast)

/-- When the clocks advance in step, a day's counter lives to midnight and so to the end of its date,
and a minute's counter to the end of its minute if it lives for sixty seconds. -/
theorem outlives_of_inStep (l : Limiter) (hl : 60 ≤ l.minuteTtl) (offset : Int) (w : LimitType) :
    l.Outlives (fun c => c.time.unixNanos = c.instant.nanos + offset) w := by
  intro e c he hc hs _
  simp only [Calendar.Timestamp.unixNanos] at he hc
  simp only [Instant.lt_def, Instant.nanos_add, Duration.ofSeconds]
  cases w with
  | daily =>
    have hday := date_eq_iff.mp hs.2
    have hleft := toNat_secondsUntilMidnight e.time
    simp only [Calendar.Timestamp.dayNumber] at hday hleft
    rw [lifetime]
    omega
  | minute =>
    have hmin := hs.2
    simp only [epochMinute] at hmin
    have hlen : 60 ≤ (l.lifetime e .minute).toNat := UInt64.le_iff_toNat_le.mp hl
    omega

/-- A limiter over counters in memory refines one that remembers all that it has allowed. Whatever
organizations and quotas the earlier calls were for, a call is refused for the day exactly when the
day's limit is reached by the calls allowed on its date, else for the minute exactly when the minute's
limit is reached by those allowed in its minute, and otherwise allowed; it reports these counts. -/
theorem decision_follows_history (l : Limiter) (past : List Call) (c : Call)
    (hl : 60 ≤ l.minuteTtl) (hord : Ordered (past ++ [c])) (hstep : InStep (past ++ [c]))
    (hr : ∀ e ∈ past ++ [c], l.InRange e) :
    ∃ d, (l.call (l.run past).store c).1 = .answer (.ok d) ∧
      d.Follows c (fun w => c.tally w (l.run past).admitted) := by
  obtain ⟨offset, hoff⟩ := hstep
  have hin : ∀ e ∈ past, e ∈ past ++ [c] := fun e he => List.mem_append_left _ he
  have hlast : c ∈ past ++ [c] := by simp
  obtain ⟨hpast, _, hle⟩ := List.pairwise_append.mp hord
  have hserv := l.serving_run past fun e he => hr e (hin e he)
  obtain ⟨d, hd, hf, _⟩ := l.call_cases hserv (hr c hlast)
  have hcounts : (fun w => (count (l.run past).store.counters (c.key w) c.instant).toNat) =
      fun w => c.tally w (l.run past).admitted := by
    funext w
    have ht := l.tallied_run (w := w) (l.outlives_of_inStep hl offset w) past
      (fun e he => hoff e (hin e he)) hpast (fun e he => hr e (hin e he))
      (fun e he => hle e he c (List.mem_singleton_self c))
    exact ht.count_eq (hoff c hlast) (Nat.le_refl _)
  rw [hcounts] at hf
  exact ⟨d, hd, hf⟩

-- A call some seconds after 1970 for an organization with one request in a minute and two in a day,
-- on clocks that started together.
private def callAt (seconds : Nat) (h : seconds ≤ 1000000) : Call :=
  { organization := "org"
    quota := ⟨1, 2, 0⟩
    time := ⟨seconds, 0, by unfold Calendar.firstSecond Calendar.lastSecond; omega, .inl (by decide)⟩
    instant := ⟨seconds * 1000000000⟩ }

/-- Around a midnight: the last minute of the old day counts no more, the first of the new day does. -/
theorem decision_follows_history_at_midnight :
    let l : Limiter := ⟨.failOpen, .ofMillis 100, 60⟩
    let past := [callAt 86370 (by decide), callAt 86400 (by decide)]
    let c := callAt 86430 (by decide)
    60 ≤ l.minuteTtl ∧ Ordered (past ++ [c]) ∧ InStep (past ++ [c]) ∧
      (∀ e ∈ past ++ [c], l.InRange e) ∧
      ∃ d, (l.call (l.run past).store c).1 = .answer (.ok d) ∧
        d.Follows c (fun w => c.tally w (l.run past).admitted) := by
  intro l past c
  have hl : 60 ≤ l.minuteTtl := by decide
  have hord : Ordered (past ++ [c]) := by simp [Ordered, past, c, callAt]
  have hstep : InStep (past ++ [c]) := ⟨0, by simp [past, c, callAt, Calendar.Timestamp.unixNanos]⟩
  have hr : ∀ e ∈ past ++ [c], l.InRange e := by
    intro e he w
    simp only [past, c, List.cons_append, List.nil_append, List.mem_cons, List.not_mem_nil,
      or_false] at he
    rcases he with rfl | rfl | rfl <;> cases w <;> decide
  exact ⟨hl, hord, hstep, hr, decision_follows_history l past c hl hord hstep hr⟩

end Limiter

end TenantGateway.RateLimit
