import TenantGateway.Proofs.RateLimit.Isolation
import TenantGateway.Proofs.RateLimit.Lifetime
import TenantGateway.Proofs.RateLimit.Waiting
import TenantGateway.Proofs.Tenant.Shielding

/-! Where a gateway adds to a reading of its clock: at the ends of cached entries and of counters. What
finds that the clock cannot represent the sum breaks off, and leaves a broken counter store if it was a
limiter's call. Up to some instant nothing breaks off exactly when the clock can represent that instant
with the life of an entry, of a minute's counter or of a day added to it. The check of the settings
asks for nothing of the kind. -/
namespace TenantGateway
open Calendar (Timestamp)
open RateLimit (Limiter MemoryStore)
open Tenant (Cache Desk DirectoryError Ending Record Refresher)

/-- The clock can represent whatever comes before an instant that it can represent. -/
theorem Instant.InRange.mono {t u : Instant} (h : u.InRange) (hle : t ≤ u) : t.InRange :=
  Nat.le_trans (Nat.div_le_div_right hle) h

private theorem Instant.add_le_add {t u : Instant} {m n : Nat} (h : t ≤ u) (hle : m ≤ n) :
    t + Duration.ofSeconds m ≤ u + Duration.ofSeconds n :=
  Nat.add_le_add h (Nat.mul_le_mul_left _ hle)

section Tenants

/-- It has broken off for want of a deadline. -/
def Tenant.Ending.IsBroken : Ending → Prop
  | .call c => c.verdict = .deadlineOverflow
  | .cycle c => c.outcome = .deadlineOverflow

variable {c : Cache} {now : Instant}

private theorem fst_settle_ne {ttlSeconds : Nat}
    (h : (now + Duration.ofSeconds ttlSeconds).InRange) (f : Tenant.Fingerprint)
    (stale : Option Tenant.Entry) (answer : Except DirectoryError (Option Record)) :
    (c.settle ttlSeconds f stale now answer).1 ≠ .deadlineOverflow := by
  rcases c.settle_cases ttlSeconds f stale now answer with ⟨r, -, hsettle⟩ |
    ⟨r, -, hrange, -⟩ | ⟨-, hsettle⟩ | ⟨error, e, -, -, hsettle⟩ | ⟨error, -, -, hsettle⟩
  case inr.inl => exact absurd h hrange
  all_goals
    rw [hsettle]
    exact nofun

private theorem fst_complete_ne {r : Refresher}
    (h : (now + Duration.ofSeconds r.ttlSeconds).InRange)
    (answer : Except Tenant.RefreshError Tenant.Snapshot) :
    (r.complete c now answer).1 ≠ .deadlineOverflow := by
  rcases r.complete_cases c now answer with
    ⟨e, -, hend⟩ | ⟨s, entries, -, hend, -⟩ | ⟨s, -, hnone, -⟩
  · rw [hend]
    exact nofun
  · rw [hend]
    exact nofun
  · obtain ⟨es, hes⟩ := Tenant.Snapshot.exists_entries? h s
    exact nomatch hnone.symm.trans hes

private theorem fst_inquire_ne {credential : String} {verdict : Tenant.Verdict}
    (h : (c.inquire credential now).1 = .done verdict) : verdict ≠ .deadlineOverflow := by
  rintro rfl
  rcases c.inquire_cases credential now with ⟨-, hdone⟩ | ⟨f, -, hfound⟩
  · exact nomatch h.symm.trans hdone
  · rcases hfound with ⟨e, -, -, hdone⟩ | ⟨e, -, -, hask⟩ | ⟨-, hask⟩
    · exact nomatch h.symm.trans hdone
    · exact nomatch h.symm.trans hask
    · exact nomatch h.symm.trans hask

private theorem not_isBroken_step {ttlSeconds : Nat} {d : Desk}
    (htracked : d.Tracked ttlSeconds) (hrange : (d.now + Duration.ofSeconds ttlSeconds).InRange)
    (h : ∀ ending ∈ d.journal, ¬ending.IsBroken) (a : Tenant.Action) :
    ∀ ending ∈ (d.step a).journal, ¬ending.IsBroken := by
  rcases d.journal_step a with hsame | ⟨ending, hjournal, hending⟩
  · rwa [hsame]
  · rw [hjournal]
    refine List.forall_mem_cons.mpr ⟨?_, h⟩
    rcases hending with ⟨credential, verdict, hdone, rfl⟩ | ⟨w, answer, rfl⟩ | ⟨answer, rfl⟩
    · exact fst_inquire_ne hdone
    · exact fst_settle_ne (htracked.ttl.symm ▸ hrange) _ _ _
    · exact fst_complete_ne (htracked.cycleTtl.symm ▸ hrange) _

end Tenants

namespace RateLimit.Limiter
open MemoryStore

variable {s : MemoryStore} {c : Call} {t : Instant}

private theorem inRange_of_le (l : Limiter) (hle : c.instant ≤ t)
    (hminute : (t + Duration.ofSeconds l.minuteTtl.toNat).InRange)
    (hday : (t + Duration.ofSeconds 86400).InRange) : l.InRange c := by
  intro w
  refine Option.isSome_iff_exists.mpr ⟨_, Instant.deadline?_eq_some_iff.mpr ⟨rfl, ?_⟩⟩
  cases w with
  | daily =>
    exact hday.mono (Instant.add_le_add hle (secondsUntilMidnight_bounds c.time).2)
  | minute => exact hminute.mono (Instant.add_le_add hle (Nat.le_refl _))

/-- A whole store stays whole, and gives an answer, if the clock can represent its counters' ends. -/
theorem call_of_inRange (l : Limiter) (hsound : s.poisoned = false) (hr : l.InRange c) :
    (l.call s c).1 ≠ .deadlineOverflow ∧ (l.call s c).2.poisoned = false := by
  refine ⟨?_, (l.flags_call hsound hr).2⟩
  cases ha : s.available with
  | false =>
    rw [l.call_of_unavailable ha]
    exact nofun
  | true =>
    obtain ⟨d, hd, -⟩ := l.call_cases ⟨ha, hsound⟩ hr
    rw [hd]
    exact nofun

/-- A first call with an end out of the clock's range breaks off. -/
theorem first_call_of_not_inRange (l : Limiter) (hlimit : ∀ w, 0 < c.limit w) (hr : ¬l.InRange c) :
    (l.call .empty c).1 = .deadlineOverflow := by
  have hzero : ¬l.timeout < Duration.zero := Nat.not_lt_zero _
  have hnew : ∀ key ttl counter,
      bump (live MemoryStore.empty.counters key c.instant) c.instant ttl = some counter →
        (c.instant.deadline? ttl.toNat).isSome := by
    intro key ttl counter hbump
    rw [live_empty] at hbump
    obtain ⟨due, hdue, -⟩ := Option.map_eq_some_iff.mp hbump
    rw [hdue]
    rfl
  have hcount : ∀ key limit, 0 < limit.toNat →
      ¬limit ≤ count MemoryStore.empty.counters key c.instant := by
    intro key limit hpositive
    rw [UInt64.le_iff_toNat_le, toNat_count_empty]
    exact Nat.not_le.mpr hpositive
  rcases check_endings serving_empty (l.query c.organization c.quota c.time) c.instant with
    ⟨hfull, -⟩ | ⟨-, hfull, -⟩ | ⟨-, -, daily, minute, hdaily, hminute, -⟩ | ⟨-, hcheck⟩
  · refine absurd hfull (hcount _ _ ?_)
    rw [l.toNat_dailyLimit c]
    exact hlimit .daily
  · refine absurd hfull (hcount _ _ ?_)
    rw [l.toNat_minuteLimit c]
    exact hlimit .minute
  · refine absurd (fun w => ?_) hr
    cases w with
    | daily => exact hnew _ _ _ hdaily
    | minute => exact hnew _ _ _ hminute
  · simp only [call, hcheck, settle, if_neg hzero]

end RateLimit.Limiter

/-- The parts of a gateway that set deadlines, by one clock, which is the desk's. -/
structure Clockwork where
  desk : Desk
  store : MemoryStore
  /-- How the limiter's calls have ended, the latest first. -/
  outcomes : List Limiter.Outcome

namespace Clockwork

inductive Event where
  /-- Time passes, or an authentication or a refresh cycle goes on. -/
  | desk (a : Tenant.Action)
  | count (organization : String) (quota : Quota) (time : Timestamp)
  /-- The counter store goes down or comes back. -/
  | serve (available : Bool)

def step (l : Limiter) (w : Clockwork) : Event → Clockwork
  | .desk a => { w with desk := w.desk.step a }
  | .count organization quota time =>
    let r := l.call w.store ⟨organization, quota, time, w.desk.now⟩
    { w with store := r.2, outcomes := r.1 :: w.outcomes }
  | .serve available => { w with store := { w.store with available } }

/-- Nothing has broken off, and nothing is broken. -/
structure Unbroken (w : Clockwork) : Prop where
  endings : ∀ ending ∈ w.desk.journal, ¬ending.IsBroken
  outcomes : ∀ outcome ∈ w.outcomes, outcome ≠ .deadlineOverflow
  store : w.store.poisoned = false

end Clockwork

namespace Settings

/-- What has become of the clockwork of a gateway with some settings. -/
def clockwork (s : Settings) (events : List Clockwork.Event) : Clockwork :=
  events.foldl (Clockwork.step s.limiter)
    { desk := .open_ s.cache.entryTtlSeconds.toNat (.ofMillis s.cache.fetchTimeoutMillis.toNat)
      store := .empty
      outcomes := [] }

/-- No run breaks before its clock has passed an instant. -/
def KeepsTime (s : Settings) (t : Instant) : Prop :=
  ∀ events, (s.clockwork events).desk.now ≤ t → (s.clockwork events).Unbroken

/-- The clock can represent each end that may be set by an instant. -/
structure Reaches (s : Settings) (t : Instant) : Prop where
  entry : (t + Duration.ofSeconds s.cache.entryTtlSeconds.toNat).InRange
  minute : (t + Duration.ofSeconds s.rateLimit.minuteTtlSeconds.toNat).InRange
  day : (t + Duration.ofSeconds 86400).InRange

variable {s : Settings} {t : Instant}

private theorem clockwork_snoc (s : Settings) (events : List Clockwork.Event)
    (e : Clockwork.Event) :
    s.clockwork (events ++ [e]) = (s.clockwork events).step s.limiter e := by
  simp only [clockwork, List.foldl_append, List.foldl_cons, List.foldl_nil]

private theorem exists_desk_run (s : Settings) (events : List Clockwork.Event) :
    ∃ actions, (s.clockwork events).desk = .run s.cache.entryTtlSeconds.toNat
      (.ofMillis s.cache.fetchTimeoutMillis.toNat) actions := by
  induction events using List.reverseRecOn with
  | nil => exact ⟨[], rfl⟩
  | append_singleton events e ih =>
    obtain ⟨actions, hdesk⟩ := ih
    rw [clockwork_snoc]
    cases e with
    | desk a => exact ⟨actions ++ [a], by rw [Desk.run_snoc, ← hdesk]; rfl⟩
    | count organization quota time => exact ⟨actions, hdesk⟩
    | serve available => exact ⟨actions, hdesk⟩

private theorem now_le_step (l : Limiter) (w : Clockwork) (e : Clockwork.Event) :
    w.desk.now ≤ (w.step l e).desk.now := by
  cases e with
  | desk a =>
    cases a with
    | advance span => exact Nat.le_add_right _ _
    | ask credential =>
      rw [Clockwork.step, Desk.step, Desk.ask]
      split <;> exact Nat.le_refl _
    | reply place answer =>
      rw [Clockwork.step, Desk.step, Desk.reply]
      split <;> exact Nat.le_refl _
    | beginCycle => exact Nat.le_refl _
    | endCycle answer => exact Nat.le_refl _
  | count organization quota time => exact Nat.le_refl _
  | serve available => exact Nat.le_refl _

private theorem keepsTime_of_reaches (h : s.Reaches t) : s.KeepsTime t := by
  intro events hnow
  induction events using List.reverseRecOn with
  | nil => exact ⟨nofun, nofun, rfl⟩
  | append_singleton events e ih =>
    obtain ⟨actions, hdesk⟩ := s.exists_desk_run events
    rw [clockwork_snoc] at hnow ⊢
    have hpast : (s.clockwork events).desk.now ≤ t := Nat.le_trans (now_le_step _ _ _) hnow
    obtain ⟨hendings, houtcomes, hstore⟩ := ih hpast
    generalize s.clockwork events = w at *
    cases e with
    | desk a =>
      have htracked : w.desk.Tracked s.cache.entryTtlSeconds.toNat := by
        rw [hdesk]
        exact Desk.tracked_run _ _ _
      have hrange := h.entry.mono (Instant.add_le_add hpast (Nat.le_refl _))
      exact ⟨not_isBroken_step htracked hrange hendings a, houtcomes, hstore⟩
    | count organization quota time =>
      have hr : s.limiter.InRange ⟨organization, quota, time, w.desk.now⟩ :=
        s.limiter.inRange_of_le hpast h.minute h.day
      obtain ⟨houtcome, hstore⟩ := s.limiter.call_of_inRange hstore hr
      exact ⟨hendings, List.forall_mem_cons.mpr ⟨houtcome, houtcomes⟩, hstore⟩
    | serve available => exact ⟨hendings, houtcomes, hstore⟩

private theorem desk_clockwork_at (s : Settings) (t : Instant) (actions : List Tenant.Action) :
    (s.clockwork ((.advance (t.since .start) :: actions).map .desk)).desk =
      actions.foldl Desk.step
        { Desk.open_ s.cache.entryTtlSeconds.toNat (.ofMillis s.cache.fetchTimeoutMillis.toNat) with
          now := t } := by
  have hnow : Instant.start + t.since .start = t := Instant.add_since (Nat.zero_le _)
  have hdesk : ∀ (w : Clockwork) (more : List Tenant.Action),
      ((more.map .desk).foldl (Clockwork.step s.limiter) w).desk = more.foldl Desk.step w.desk := by
    intro w more
    induction more generalizing w with
    | nil => rfl
    | cons a more ih => exact ih _
  rw [clockwork, hdesk, List.foldl_cons]
  simp only [Desk.step, Desk.open_, hnow]

private theorem entry_of_keepsTime (h : s.KeepsTime t) :
    (t + Duration.ofSeconds s.cache.entryTtlSeconds.toNat).InRange := by
  by_contra hrange
  let r : Record := ⟨"org", "key", ⟨1, 1, 0⟩⟩
  let d : Desk := { Desk.open_ s.cache.entryTtlSeconds.toNat
    (.ofMillis s.cache.fetchTimeoutMillis.toNat) with now := t }
  let events := (.advance (t.since .start) ::
    (Tenant.Turn.authenticate "k" .zero (.ok (some r))).actions).map Clockwork.Event.desk
  have hblank : ¬(Text.trim "k").isEmpty := by decide
  have hdesk : (s.clockwork events).desk = d.take (.authenticate "k" .zero (.ok (some r))) :=
    desk_clockwork_at s t _
  rw [Desk.take_authenticate_of_overflow (d := d) rfl hblank Std.ExtTreeMap.getElem?_empty .zero r
    hrange] at hdesk
  have hunbroken : (s.clockwork events).Unbroken := by
    refine h events ?_
    rw [hdesk]
    exact Nat.le_refl _
  refine hunbroken.endings (.call ⟨"k", t, some (.ok (some r)), .deadlineOverflow, t⟩) ?_ rfl
  rw [hdesk]
  exact List.mem_singleton_self _

private theorem inRange_of_keepsTime (h : s.KeepsTime t) :
    s.limiter.InRange ⟨"org", ⟨1, 1, 0⟩, .epoch, t⟩ := by
  by_contra hr
  have hnow : Instant.start + t.since .start = t := Instant.add_since (Nat.zero_le _)
  have hlimit : ∀ w, 0 < (⟨"org", ⟨1, 1, 0⟩, .epoch, t⟩ : RateLimit.Call).limit w := by
    intro w
    cases w with
    | daily => exact (by decide : 0 < (1 : UInt64).toNat)
    | minute => exact (by decide : 0 < min ((1 : UInt64).toNat + (0 : UInt64).toNat) (2 ^ 64 - 1))
  have hcall := s.clockwork_snoc [.desk (.advance (t.since .start))] (.count "org" ⟨1, 1, 0⟩ .epoch)
  have hstart : s.clockwork [.desk (.advance (t.since .start))] =
      { desk := { Desk.open_ s.cache.entryTtlSeconds.toNat
          (.ofMillis s.cache.fetchTimeoutMillis.toNat) with now := t }
        store := .empty
        outcomes := [] } := by
    simp only [clockwork, List.foldl_cons, List.foldl_nil, Clockwork.step, Desk.step, Desk.open_, hnow]
  have hunbroken := h ([.desk (.advance (t.since .start))] ++ [.count "org" ⟨1, 1, 0⟩ .epoch]) (by
    rw [hcall, hstart]
    exact Nat.le_refl _)
  rw [hcall, hstart] at hunbroken
  exact hunbroken.outcomes _ List.mem_cons_self (s.limiter.first_call_of_not_inRange hlimit hr)

private theorem reaches_of_keepsTime (h : s.KeepsTime t) : s.Reaches t := by
  have hends : ∀ w, (t + Duration.ofSeconds
      (s.limiter.lifetime ⟨"org", ⟨1, 1, 0⟩, .epoch, t⟩ w).toNat).InRange := by
    intro w
    obtain ⟨due, hdue⟩ := Option.isSome_iff_exists.mp (inRange_of_keepsTime h w)
    exact (Instant.deadline?_eq_some_iff.mp hdue).2
  exact ⟨entry_of_keepsTime h, hends .minute, hends .daily⟩

private theorem checkQuantities_eq_ok_iff (quantities : List (String × UInt64)) :
    checkQuantities quantities = .ok () ↔ ∀ q ∈ quantities, q.2 ≠ 0 := by
  induction quantities with
  | nil => exact ⟨nofun, fun _ => rfl⟩
  | cons q quantities ih =>
    obtain ⟨name, n⟩ := q
    rw [checkQuantities, List.forall_mem_cons]
    by_cases hn : n = 0
    · rw [if_pos hn]
      exact ⟨nofun, fun h => absurd hn h.1⟩
    · rw [if_neg hn, ih]
      exact ⟨fun h => ⟨hn, h⟩, And.right⟩

private theorem validate_eq_ok_iff (s : Settings) :
    s.validate = .ok () ↔ s.services.isEmpty = false ∧ checkServices [] s.services = .ok () ∧
      ∀ q ∈ s.quantities, q.2 ≠ 0 := by
  rw [validate, ← checkQuantities_eq_ok_iff]
  cases s.services.isEmpty with
  | true => exact ⟨nofun, nofun⟩
  | false =>
    cases hservices : checkServices [] s.services with
    | error e => exact ⟨nofun, nofun⟩
    | ok => exact ⟨fun h => ⟨rfl, rfl, h⟩, fun h => h.2.2⟩

/-- Settings that are found valid keep time up to an instant exactly when the clock can represent all
ends that may be set by then. The check lets every life of an entry pass but that of zero seconds, and
every life of a minute's counter. -/
theorem keepsTime_iff_of_validate (s : Settings) (h : s.validate = .ok ()) (t : Instant) :
    (s.KeepsTime t ↔ s.Reaches t) ∧
      ∀ entryTtlSeconds minuteTtlSeconds, entryTtlSeconds ≠ 0 →
        { s with
          cache := { s.cache with entryTtlSeconds }
          rateLimit := { s.rateLimit with minuteTtlSeconds } }.validate = .ok () := by
  refine ⟨⟨reaches_of_keepsTime, keepsTime_of_reaches⟩, ?_⟩
  intro entryTtlSeconds minuteTtlSeconds hentry
  obtain ⟨hsome, hservices, hquantities⟩ := s.validate_eq_ok_iff.mp h
  refine (validate_eq_ok_iff _).mpr ⟨hsome, hservices, ?_⟩
  simp only [quantities, List.forall_mem_cons] at hquantities ⊢
  obtain ⟨hrefresh, -, hrest⟩ := hquantities
  exact ⟨hrefresh, hentry, hrest⟩

/-- The defaults keep time for longer than a hundred thousand million years. -/
theorem keepsTime_of_validate_plain : (plain 120).validate = .ok () ∧
    (plain 120).KeepsTime (Instant.start + Duration.ofSeconds (2 ^ 62)) := by
  have hvalid : (plain 120).validate = .ok () := by decide
  refine ⟨hvalid, ((plain 120).keepsTime_iff_of_validate hvalid _).1.mpr ⟨?_, ?_, ?_⟩⟩
  all_goals decide

/-- With the longest life of a minute's counter, which is found valid, nothing can be counted even when
the clock starts. -/
theorem not_keepsTime_of_validate : ¬∀ s : Settings, s.validate = .ok () → s.KeepsTime .start := by
  intro h
  have hvalid : (plain 0xffffffffffffffff).validate = .ok () := by decide
  exact absurd (reaches_of_keepsTime (h _ hvalid)).minute (by decide)

end Settings

end TenantGateway
