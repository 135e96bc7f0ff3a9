import TenantGateway.Proofs.RateLimit.Isolation
import TenantGateway.Proofs.RateLimit.Skew
import TenantGateway.Proofs.RateLimit.Waiting

/-! The seconds that are left of a minute or a day end where the counter's name changes, and not
before. A day's counter lives for as many seconds as are left of its day: it is there for the rest of
that day, and ends as far into the first second of the next one as its first request came in a
second. -/
namespace TenantGateway

namespace Calendar.Timestamp

/-- The moment some seconds later, if it can be represented. -/
def plus? (t : Timestamp) (seconds : Nat) : Option Timestamp :=
  ofUnix? (t.seconds + seconds) t.nanos

/-- Outside leap seconds the nanoseconds are those of one second. -/
theorem nanos_lt_of_not_isLeap {t : Timestamp} (h : t.isLeap = false) : t.nanos < 1000000000 := by
  rw [isLeap, decide_eq_false_iff_not] at h
  exact Nat.not_le.mp h

/-- Outside leap seconds the nanoseconds are added to the seconds. -/
theorem unixNanos_of_not_isLeap {t : Timestamp} (h : t.isLeap = false) :
    t.unixNanos = t.seconds * 1000000000 + t.nanos := by
  have hnanos := nanos_lt_of_not_isLeap h
  rw [unixNanos]
  omega

/-- Outside leap seconds only the end of the calendar is in the way. -/
theorem exists_plus? {t : Timestamp} (h : t.isLeap = false) {n : Nat}
    (hn : t.seconds + n ≤ lastSecond) :
    ∃ u, t.plus? n = some u ∧ u.seconds = t.seconds + n := by
  have hrange : firstSecond ≤ t.seconds + n ∧ t.seconds + n ≤ lastSecond :=
    ⟨Int.le_trans t.inRange.1 (Int.le_add_of_nonneg_right (Int.natCast_nonneg n)), hn⟩
  rw [plus?, ofUnix?, dif_pos hrange, dif_pos (.inl (nanos_lt_of_not_isLeap h))]
  exact ⟨_, rfl, rfl⟩

end Calendar.Timestamp

namespace RateLimit
open Calendar (Timestamp lastSecond)
open MemoryStore

/-- A name stays the same for `n` seconds, at least one and at most `most`, and is another from then
on, as long as the calendar lasts. -/
structure RollsOver (key : Timestamp → String) (t : Timestamp) (n most : Nat) : Prop where
  one_le : 1 ≤ n
  le_most : n ≤ most
  stays : ∀ j < n, ∃ u, t.plus? j = some u ∧ key u = key t
  changes : ∀ j, n ≤ j → t.seconds + j ≤ lastSecond → ∃ u, t.plus? j = some u ∧ key u ≠ key t

private theorem rollsOver_of_iff {key : Timestamp → String} {t : Timestamp} {n most : Nat}
    (hleap : t.isLeap = false) (hn : 1 ≤ n ∧ n ≤ most) (hlast : t.seconds + n ≤ lastSecond + 1)
    (hkey : ∀ (u : Timestamp) (j : Nat), u.seconds = t.seconds + j → (key u = key t ↔ j < n)) :
    RollsOver key t n most where
  one_le := hn.1
  le_most := hn.2
  stays := by
    intro j hj
    obtain ⟨u, hu, hseconds⟩ := Timestamp.exists_plus? hleap (n := j) (by omega)
    exact ⟨u, hu, (hkey u j hseconds).mpr hj⟩
  changes := by
    intro j hj hend
    obtain ⟨u, hu, hseconds⟩ := Timestamp.exists_plus? hleap hend
    exact ⟨u, hu, fun h => Nat.not_lt.mpr hj ((hkey u j hseconds).mp h)⟩

private theorem rollsOver_minute (o : String) {t : Timestamp} (hleap : t.isLeap = false) :
    RollsOver (minuteKey o) t (secondsUntilNextMinute t).toNat 60 := by
  have hleft := toNat_secondsUntilNextMinute t
  have hrange := t.inRange.2
  simp only [epochMinute] at hleft
  refine rollsOver_of_iff hleap (secondsUntilNextMinute_bounds t) ?_ fun u j hu => ?_
  · unfold lastSecond at hrange ⊢
    omega
  · rw [minuteKey_inj, epochMinute, epochMinute, hu, and_iff_right rfl]
    omega

private theorem rollsOver_day (o : String) {t : Timestamp} (hleap : t.isLeap = false) :
    RollsOver (dailyKey o) t (secondsUntilMidnight t).toNat 86400 := by
  have hleft := toNat_secondsUntilMidnight t
  have hrange := t.inRange.2
  simp only [Timestamp.dayNumber] at hleft
  refine rollsOver_of_iff hleap (secondsUntilMidnight_bounds t) ?_ fun u j hu => ?_
  · unfold lastSecond at hrange ⊢
    omega
  · rw [dailyKey_inj, date_eq_iff, Timestamp.dayNumber, Timestamp.dayNumber, hu, and_iff_right rfl]
    omega

/-- The store after one event. -/
def StoreEvent.effect (s : MemoryStore) : StoreEvent → MemoryStore
  | .switch available => { s with available }
  | .visit v => (v.limiter.call s v.toCall).2

/-- The store after events that come one after the other. -/
def MemoryStore.after (s : MemoryStore) (events : List StoreEvent) : MemoryStore :=
  events.foldl StoreEvent.effect s

/-- From `now` on, what is seen under a name is one counter that lives until `due`. -/
def MemoryStore.Lasts (s : MemoryStore) (key : String) (now due : Instant) : Prop :=
  ∀ later, now ≤ later →
    (live s.counters key later).map Counter.expiresAt = if later < due then some due else none

namespace MemoryStore.Lasts

variable {s : MemoryStore} {key : String} {now later due : Instant}

private theorem mono (h : s.Lasts key now due) (hle : now ≤ later) : s.Lasts key later due :=
  fun time htime => h time (Nat.le_trans hle htime)

private theorem purged (h : s.Lasts key now due) : (s.purged now).Lasts key now due := by
  intro time htime
  rw [MemoryStore.purged, live_purge _ _ htime]
  exact h time htime

private theorem isSome_iff (h : s.Lasts key now due) :
    (live s.counters key now).isSome = true ↔ now < due := by
  have hnow := h now (Nat.le_refl _)
  rw [← Option.isSome_map (f := Counter.expiresAt), hnow]
  split
  next hlt => exact iff_of_true rfl hlt
  next hge => exact iff_of_false Bool.false_ne_true hge

private theorem map_fresh {g : Counter} (hg : g.expiresAt = due) (time : Instant) :
    (if g.isLive time then some g else none).map Counter.expiresAt =
      if time < due then some due else none := by
  rw [Counter.isLive, hg]
  by_cases hlt : time < due
  · rw [if_pos (decide_eq_true hlt), if_pos hlt, Option.map_some, hg]
  · rw [if_neg (by simpa using hlt), if_neg hlt, Option.map_none]

private theorem counted (l : Limiter) (c : Call) {daily minute : Counter}
    (hdaily : daily.expiresAt = due) :
    (s.counted (l.query c.organization c.quota c.time) c.instant daily minute).Lasts (c.key .daily)
      c.instant due := by
  intro time htime
  rw [live_counted_daily l c c daily minute htime, if_pos rfl]
  exact map_fresh hdaily time

/-- A call counts with the counter or leaves it alone, unless it looks for it when it has ended. -/
theorem call {c e : Call} (h : s.Lasts (c.key .daily) now due) (l : Limiter) (hn : now ≤ e.instant)
    (hshares : e.Shares c .daily → e.instant < due) :
    (l.call s e).2.Lasts (c.key .daily) e.instant due := by
  have hlater := h.mono hn
  cases ha : s.available with
  | false =>
    rw [l.call_of_unavailable ha]
    exact hlater
  | true =>
    cases hp : s.poisoned with
    | true =>
      rw [l.call_of_broken ⟨ha, hp⟩]
      exact hlater
    | false =>
      rcases l.decides_or_breaks ⟨ha, hp⟩ e with
        ⟨d, -, -, ⟨-, he⟩ | ⟨-, daily, minute, he, hnext⟩⟩ | hbreaks
      · rw [he]
        exact hlater.purged
      · rw [he]
        by_cases hs : e.Shares c .daily
        · have hold := hlater e.instant (Nat.le_refl _)
          rw [if_pos (hshares hs), ← Call.key_eq_iff.mpr hs] at hold
          rw [← Call.key_eq_iff.mpr hs]
          refine counted l e ((hnext .daily).2.trans ?_)
          rw [hold, Option.getD_some]
        · intro time htime
          rw [live_counted_daily l e c daily minute htime, if_neg (mt Call.key_eq_iff.mp hs)]
          exact hlater time htime
      · rw [hbreaks.2]
        exact hlater.purged

/-- The same of events in a row, up to the time of another call. -/
theorem after {c e : Call} (h : s.Lasts (c.key .daily) now due) {events : List StoreEvent}
    (hnow : ∀ f ∈ (StoreEvent.visits events).map Visit.toCall ++ [e], now ≤ f.instant)
    (hord : Ordered ((StoreEvent.visits events).map Visit.toCall ++ [e]))
    (hshares : ∀ v ∈ StoreEvent.visits events, v.Shares c .daily → v.instant < due) :
    (s.after events).Lasts (c.key .daily) e.instant due := by
  induction events generalizing s now with
  | nil => exact h.mono (hnow e (List.mem_singleton_self e))
  | cons event events ih =>
    cases event with
    | switch available => exact ih h hnow hord hshares
    | visit v =>
      obtain ⟨hfirst, hrest⟩ := List.pairwise_cons.mp hord
      exact ih (h.call v.limiter (hnow v.toCall List.mem_cons_self)
        (hshares v List.mem_cons_self)) hfirst hrest
        fun f hf => hshares f (List.mem_cons_of_mem v hf)

end MemoryStore.Lasts

/-- A call makes a new counter for its day, more happens to the store, and `e` is the last call. For
these two calls the clocks have advanced in step. -/
structure Opening (l : Limiter) (s : MemoryStore) (c : Call) (events : List StoreEvent) (e : Call) :
    Prop where
  absent : live s.counters (c.key .daily) c.instant = none
  allowed : (l.call s c).1.isAllowed = true
  order : Ordered (c :: ((StoreEvent.visits events).map Visit.toCall ++ [e]))
  inStep : InStep [c, e]

/-- The counter of the day of `c` that a later call would find. -/
def Limiter.dayCounter (l : Limiter) (s : MemoryStore) (c : Call) (events : List StoreEvent)
    (e : Call) : Option Counter :=
  live ((l.call s c).2.after events).counters (c.key .daily) e.instant

/-- The end of a new counter of the day of `c`. -/
def Call.dayDue (c : Call) : Instant :=
  c.instant + Duration.ofSeconds (secondsUntilMidnight c.time).toNat

/-- The seconds that are left of a day lead to its end, and as far beyond it as the moment is in a
second. -/
theorem unixNanos_add_secondsUntilMidnight {t : Timestamp} (hleap : t.isLeap = false) :
    t.unixNanos + (secondsUntilMidnight t).toNat * 1000000000 = dayEnd t.dayNumber + t.nanos := by
  have hleft := toNat_secondsUntilMidnight t
  rw [Timestamp.unixNanos_of_not_isLeap hleap, dayEnd]
  omega

private theorem Call.lt_dayDue_iff {c e : Call} (hleap : c.time.isLeap = false)
    (h : InStep [c, e]) :
    e.instant < c.dayDue ↔ e.time.unixNanos < dayEnd c.time.dayNumber + c.time.nanos := by
  obtain ⟨offset, hoff⟩ := h
  have hc := hoff c List.mem_cons_self
  have he := hoff e (List.mem_cons_of_mem c (List.mem_singleton_self e))
  have hdue := unixNanos_add_secondsUntilMidnight hleap
  simp only [dayDue, Instant.lt_def, Instant.nanos_add, Duration.ofSeconds]
  omega

private theorem Call.unixNanos_lt_dayEnd {c e : Call} (h : e.time.date = c.time.date) :
    e.time.unixNanos < dayEnd c.time.dayNumber := by
  have hlt := Call.unix_lt_dayEnd (Call.isOn_iff.mpr ⟨rfl, date_eq_iff.mp h⟩)
  rw [Call.offset] at hlt
  omega

/-- On a call's day its counter has not ended. -/
theorem Call.lt_dayDue_of_date_eq {c e : Call} (hleap : c.time.isLeap = false) (h : InStep [c, e])
    (hday : e.time.date = c.time.date) : e.instant < c.dayDue := by
  have hlt := Call.unixNanos_lt_dayEnd hday
  rw [Call.lt_dayDue_iff hleap h]
  omega

namespace Opening

variable {l : Limiter} {s : MemoryStore} {c e : Call} {events : List StoreEvent}

private theorem serving (h : Opening l s c events e) : s.Serving where
  available := by
    by_contra hoff
    have hallowed := h.allowed
    rw [l.call_of_unavailable (Bool.eq_false_iff.mpr hoff)] at hallowed
    contradiction
  sound := by
    by_contra hbroken
    have hallowed := h.allowed
    cases ha : s.available with
    | false =>
      rw [l.call_of_unavailable ha] at hallowed
      contradiction
    | true =>
      rw [l.call_of_broken ⟨ha, Bool.not_eq_false _ ▸ hbroken⟩] at hallowed
      contradiction

private theorem lasts (h : Opening l s c events e) :
    (l.call s c).2.Lasts (c.key .daily) c.instant c.dayDue := by
  have hallowed := h.allowed
  rcases l.decides_or_breaks h.serving c with
    ⟨d, hd, -, ⟨hno, -⟩ | ⟨-, daily, minute, he, hnext⟩⟩ | hbreaks
  · rw [hd, Limiter.Outcome.isAllowed, hno] at hallowed
    contradiction
  · rw [he]
    refine Lasts.counted l c ((hnext .daily).2.trans ?_)
    rw [h.absent]
    rfl
  · rw [hbreaks.2] at hallowed
    contradiction

private theorem isSome_iff (h : Opening l s c events e)
    (hshares : ∀ v ∈ StoreEvent.visits events, v.Shares c .daily → v.instant < c.dayDue) :
    (l.dayCounter s c events e).isSome = true ↔ e.instant < c.dayDue := by
  obtain ⟨hfirst, hrest⟩ := List.pairwise_cons.mp h.order
  exact (h.lasts.after hfirst hrest hshares).isSome_iff

private theorem le_last (h : Opening l s c events e) {v : Visit}
    (hv : v ∈ StoreEvent.visits events) : v.instant ≤ e.instant := by
  have hrest := (List.pairwise_cons.mp h.order).2
  exact (List.pairwise_append.mp hrest).2.2 v.toCall (List.mem_map_of_mem hv) e
    (List.mem_singleton_self e)

end Opening

/-- What the seconds that are left of a moment's minute and day stand for. -/
structure Remainders (t : Timestamp) : Prop where
  minute : ∀ o, RollsOver (minuteKey o) t (secondsUntilNextMinute t).toNat 60
  day : ∀ o, RollsOver (dailyKey o) t (secondsUntilMidnight t).toNat 86400
  /-- A life of that many seconds reaches the end of the day, and less than a second more. -/
  deadline : dayEnd t.dayNumber ≤ t.unixNanos + (secondsUntilMidnight t).toNat * 1000000000 ∧
    t.unixNanos + (secondsUntilMidnight t).toNat * 1000000000 < dayEnd t.dayNumber + 1000000000
  /-- A counter that is made now is there for the rest of the day, whoever else calls. -/
  alive : ∀ l s c events e, c.time = t → Opening l s c events e → e.time.date = t.date →
    (l.dayCounter s c events e).isSome = true
  /-- Within a second of midnight it has ended, and where all clocks advance in step nobody has made
  another one for the day. -/
  ends : ∃ rest < 1000000000, ∀ l s c events e, c.time = t → Opening l s c events e →
    InStep (c :: (StoreEvent.visits events).map Visit.toCall) →
      ((l.dayCounter s c events e).isSome = true ↔
        e.time.unixNanos < dayEnd t.dayNumber + (rest : Nat))

/-- Outside leap seconds the remainders are the distances to the next minute and the next day. -/
theorem remainders_of_not_isLeap (t : Timestamp) (h : t.isLeap = false) : Remainders t where
  minute := fun o => rollsOver_minute o h
  day := fun o => rollsOver_day o h
  deadline := by
    have hnanos := Timestamp.nanos_lt_of_not_isLeap h
    rw [unixNanos_add_secondsUntilMidnight h]
    omega
  alive := by
    rintro l s c events e rfl hopening hday
    have hlt := Call.lt_dayDue_of_date_eq h hopening.inStep hday
    exact (hopening.isSome_iff fun v hv _ => Nat.lt_of_le_of_lt (hopening.le_last hv) hlt).mpr hlt
  ends := by
    refine ⟨t.nanos, Timestamp.nanos_lt_of_not_isLeap h, ?_⟩
    rintro l s c events e rfl hopening ⟨offset, hoff⟩
    rw [hopening.isSome_iff fun v hv hs => ?_, Call.lt_dayDue_iff h hopening.inStep]
    refine Call.lt_dayDue_of_date_eq h ⟨offset, fun f hf => hoff f ?_⟩ hs.2
    rcases List.mem_cons.mp hf with rfl | hf
    · exact List.mem_cons_self
    · rw [List.mem_singleton.mp hf]
      exact List.mem_cons_of_mem _ (List.mem_map_of_mem hv)

-- A call some milliseconds after 1969-12-31 23:59:50.5.
private def eveningCall (millis : Nat) (h : millis < 9500) : Call :=
  { organization := "org"
    quota := ⟨5, 2, 0⟩
    time :=
      { seconds := -10 + ((millis + 500) / 1000 : Nat)
        nanos := (millis + 500) % 1000 * 1000000
        inRange := by
          unfold Calendar.firstSecond Calendar.lastSecond
          omega
        nanos_lt := .inl (by omega) }
    instant := ⟨millis * 1000000⟩ }

/-- The store is off for a while, another gateway calls, and the day has a millisecond left. -/
theorem remainders_of_not_isLeap_evening :
    let l : Limiter := ⟨.failOpen, .ofMillis 100, 120⟩
    let c := eveningCall 0 (by decide)
    let events : List StoreEvent := [.switch false, .visit ⟨eveningCall 2000 (by decide), l⟩,
      .switch true, .visit ⟨eveningCall 7000 (by decide), { l with minuteTtl := 1 }⟩]
    let e := eveningCall 9499 (by decide)
    c.time.isLeap = false ∧ Opening l .empty c events e ∧ e.time.date = c.time.date ∧
      (l.dayCounter .empty c events e).isSome = true := by
  intro l c events e
  have hopening : Opening l .empty c events e := by
    refine ⟨by decide +kernel, by decide +kernel, ?_, ⟨-9500000000, by decide⟩⟩
    simp [Ordered, events, StoreEvent.visits, c, e, eveningCall]
  have hleap : c.time.isLeap = false := by decide
  have hday : e.time.date = c.time.date := by decide
  exact ⟨hleap, hopening, hday,
    (remainders_of_not_isLeap c.time hleap).alive l .empty c events e rfl hopening hday⟩

end RateLimit
end TenantGateway
