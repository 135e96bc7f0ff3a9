import TenantGateway.Proofs.RateLimit.Holdings
import TenantGateway.Settings.Validity
import TenantGateway.Simulation.Gateway

/-! How long a minute's counter has to live for the quota of a minute to hold, and what the check of the
settings says about it. -/
namespace TenantGateway

/-- The limiter of a gateway with some settings. -/
def Settings.limiter (s : Settings) : RateLimit.Limiter :=
  { policy := s.rateLimit.policy
    timeout := .ofMillis s.rateLimit.timeoutMillis.toNat
    minuteTtl := s.rateLimit.minuteTtlSeconds }

/-- A gateway on a virtual clock has the limiter of its settings. -/
theorem limiter_ofSettings (s : Settings) (directory : Simulation.SlowDirectory)
    (sink : Simulation.SlowSink) (backends : List Simulation.Backend) (dailyTtl : UInt64)
    (wall : Calendar.Timestamp) :
    (Simulation.GatewaySession.ofSettings s directory sink backends dailyTtl wall).limits.limiter =
      s.limiter := rfl

namespace RateLimit
open MemoryStore

/-- On clocks that advance in step, no organization with one quota in a minute has more calls allowed
in it than the quota says. -/
def Limiter.KeepsMinuteQuota (l : Limiter) : Prop :=
  ∀ (calls : List Call) (o : String) (minute : Int) (q : Quota), Ordered calls → InStep calls →
    (∀ c ∈ calls, c.isIn o minute = true → c.quota = q) →
      (l.run calls).admitted.countP (Call.isIn o minute) ≤ q.minuteCeiling.toNat

namespace Limiter

variable {l : Limiter} {expected : Call → Prop} {o : String} {minute : Int} {q : Quota}

private theorem countP_isIn_le (hout : ∀ w, l.Outlives expected w) (calls : List Call)
    (hexp : ∀ c ∈ calls, expected c) (hord : Ordered calls)
    (hq : ∀ c ∈ calls, c.isIn o minute = true → c.quota = q) :
    (l.run calls).admitted.countP (Call.isIn o minute) ≤ q.minuteCeiling.toNat := by
  induction calls using List.reverseRecOn with
  | nil => exact Nat.zero_le _
  | append_singleton calls c ih =>
    have hin : ∀ e ∈ calls, e ∈ calls ++ [c] := fun e he => List.mem_append_left _ he
    have hlast : c ∈ calls ++ [c] := List.mem_append_right _ (List.mem_singleton_self c)
    have hpast := ih (fun e he => hexp e (hin e he)) (List.pairwise_append.mp hord).1
      (fun e he => hq e (hin e he))
    rw [admitted_snoc]
    split
    next hallowed =>
      rw [List.countP_append, List.countP_singleton]
      split
      next hc =>
        have hlt := lt_limit_of_isAllowed hout hexp hord hallowed .minute
        rw [Call.tally_eq_countP (Call.isIn_iff_shares hc), Call.limit_minute,
          hq c hlast hc] at hlt
        exact hlt
      next => exact hpast
    next => exact hpast

/-- A new store has no counters. -/
theorem live_empty (key : String) (now : Instant) :
    live MemoryStore.empty.counters key now = none := by
  simp [live, MemoryStore.empty]

/-- In a new store nothing has been counted. -/
theorem toNat_count_empty (key : String) (now : Instant) :
    (count MemoryStore.empty.counters key now).toNat = 0 := by
  rw [count, live_empty]
  rfl

private theorem count_after_first {a b : Call} (ha : l.InRange a) (hlimit : ∀ w, 0 < a.limit w)
    (hended : a.instant + Duration.ofSeconds l.minuteTtl.toNat ≤ b.instant) :
    (l.call .empty a).1.isAllowed = true ∧ ∀ w : LimitType,
      (count (l.call .empty a).2.counters (b.key w) b.instant).toNat ≤ w.pick 1 0 := by
  obtain ⟨d, hd, hf, hcase⟩ := l.call_cases serving_empty ha
  have hallowed : d.allowed = true := hf.allowed_of_lt fun w => by
    rw [toNat_count_empty]
    exact hlimit w
  obtain ⟨hno, -⟩ | ⟨-, daily, minute, hstore, hnext⟩ := hcase
  · rw [hallowed] at hno
    contradiction
  · rw [hd, hstore]
    refine ⟨hallowed, fun w => ?_⟩
    obtain ⟨hvalue, hdue⟩ := hnext w
    rw [toNat_count_empty] at hvalue
    rw [live_empty] at hdue
    have hle : a.instant ≤ b.instant := Nat.le_trans (Nat.le_add_right _ _) hended
    rw [count, live_counted_key hle rfl rfl, live_empty]
    by_cases hs : a.Shares b w
    · rw [if_pos hs]
      cases w with
      | daily =>
        split
        · exact Nat.le_of_eq hvalue
        · exact Nat.zero_le _
      | minute =>
        have hdead : ¬(LimitType.minute.pick daily minute).isLive b.instant = true := by
          rw [Counter.isLive, hdue, decide_eq_true_eq]
          exact Nat.not_lt.mpr hended
        rw [if_neg hdead]
        exact Nat.le_refl _
    · rw [if_neg hs]
      exact Nat.zero_le _

private theorem admitted_pair {a b : Call} (ha : l.InRange a) (hb : l.InRange b)
    (hended : a.instant + Duration.ofSeconds l.minuteTtl.toNat ≤ b.instant)
    (hfirst : ∀ w, 0 < a.limit w) (hsecond : ∀ w : LimitType, w.pick 1 0 < b.limit w) :
    (l.run [a, b]).admitted = [a, b] := by
  -- A minute's counter that has ended counts no more, whatever minute the next call is in.
  obtain ⟨hallowed, hcount⟩ := count_after_first ha hfirst hended
  obtain ⟨d, hd, hf, -⟩ := l.call_cases (l.serving_call serving_empty ha) hb
  have hallowed' : (l.call (l.call .empty a).2 b).1.isAllowed = true := by
    rw [hd]
    exact hf.allowed_of_lt fun w => Nat.lt_of_le_of_lt (hcount w) (hsecond w)
  have hstore : (l.run [a]).store = (l.call .empty a).2 := l.store_snoc [] a
  have hone : (l.run [a]).admitted = [a] := (l.admitted_snoc [] a).trans (if_pos hallowed)
  rw [← hstore] at hallowed'
  rw [show [a, b] = [a] ++ [b] from rfl, admitted_snoc, if_pos hallowed', hone]

private theorem inRange_of_short (h : l.minuteTtl.toNat < 60) {c : Call}
    (hc : c.instant.nanos ≤ 60000000000) : l.InRange c := by
  have hlen : ∀ w, (l.lifetime c w).toNat ≤ 86400 := by
    intro w
    cases w with
    | daily => exact (secondsUntilMidnight_bounds c.time).2
    | minute => exact Nat.le_of_lt (Nat.lt_trans h (by decide))
  intro w
  have hw := hlen w
  refine Option.isSome_iff_exists.mpr ⟨_, Instant.deadline?_eq_some_iff.mpr ⟨rfl, ?_⟩⟩
  simp only [Instant.InRange, Instant.nanos_add, Duration.ofSeconds, Instant.lastSecond]
  omega

private theorem limit_knock (organization : String) (wall store : Nat) (h : wall < 86400)
    (w : LimitType) : (Visit.knock organization wall store h).limit w = w.pick 2 1 := by
  cases w <;> rfl

private theorem exists_two_admitted (h : l.minuteTtl.toNat < 60) : ∃ calls, Ordered calls ∧
    InStep calls ∧ (∀ c ∈ calls, c.isIn "org" 0 = true ∧ c.quota = ⟨1, 2, 0⟩) ∧
      (l.run calls).admitted = calls ∧ calls.length = 2 := by
  have hday : l.minuteTtl.toNat < 86400 := by omega
  let a := (Visit.knock "org" 0 0 (by decide)).toCall
  let b := (Visit.knock "org" l.minuteTtl.toNat l.minuteTtl.toNat hday).toCall
  refine ⟨[a, b], ?_, ⟨0, ?_⟩, ?_, ?_, rfl⟩
  · simp [Ordered, a, b, Visit.knock]
  · simp [a, b, Visit.knock, Calendar.Timestamp.unixNanos]
  · intro c hc
    simp only [a, b, List.mem_cons, List.not_mem_nil, or_false] at hc
    rcases hc with rfl | rfl
    · exact ⟨Call.isIn_iff.mpr ⟨rfl, rfl⟩, rfl⟩
    · refine ⟨Call.isIn_iff.mpr ⟨rfl, ?_⟩, rfl⟩
      simp only [epochMinute, Visit.knock]
      omega
  · refine admitted_pair (inRange_of_short h (by decide)) (inRange_of_short h ?_) ?_ ?_ ?_
    · simp only [b, Visit.knock]
      omega
    · simp only [a, b, Visit.knock, Instant.le_def, Instant.nanos_add, Duration.ofSeconds]
      omega
    · intro w
      rw [limit_knock]
      cases w <;> decide
    · intro w
      rw [limit_knock]
      cases w <;> decide

/-- The counter of a minute has to live as long as the minute, and that suffices. -/
theorem keepsMinuteQuota_iff (l : Limiter) : l.KeepsMinuteQuota ↔ 60 ≤ l.minuteTtl := by
  constructor
  · intro hkeeps
    by_contra hshort
    rw [UInt64.not_le, UInt64.lt_iff_toNat_lt] at hshort
    obtain ⟨calls, hord, hstep, hcalls, hadmitted, htwo⟩ := exists_two_admitted hshort
    have hle := hkeeps calls "org" 0 ⟨1, 2, 0⟩ hord hstep fun c hc _ => (hcalls c hc).2
    rw [hadmitted, List.countP_eq_length.mpr fun c hc => (hcalls c hc).1, htwo] at hle
    exact absurd hle (by decide)
  · rintro hl calls o minute q hord ⟨offset, hoff⟩ hq
    exact countP_isIn_le (l.outlives_of_inStep hl offset) calls hoff hord hq

end Limiter

end RateLimit

namespace Settings

/-- Settings that are found valid keep the quota of a minute exactly when its counter lives for a minute
at least. The check does not look at this lifetime, and lets every other one pass as well. -/
theorem keepsMinuteQuota_iff_of_validate (s : Settings) (h : s.validate = .ok ()) :
    (s.limiter.KeepsMinuteQuota ↔ 60 ≤ s.rateLimit.minuteTtlSeconds) ∧
      ∀ ttl, { s with rateLimit := { s.rateLimit with minuteTtlSeconds := ttl } }.validate =
        .ok () :=
  ⟨s.limiter.keepsMinuteQuota_iff, fun _ => h⟩

/-- Settings for one service, with the defaults but for the life of a minute's counter. -/
def plain (minuteTtlSeconds : UInt64) : Settings :=
  { listen := ⟨.v4 [127, 0, 0, 1], 8080, 0⟩
    services := [⟨"api", "http://127.0.0.1:9000", true⟩]
    rateLimit := { minuteTtlSeconds } }

/-- The default life of a minute's counter is found valid and keeps the quota. -/
theorem keepsMinuteQuota_of_validate_plain :
    (plain 120).validate = .ok () ∧ (plain 120).limiter.KeepsMinuteQuota := by
  have hvalid : (plain 120).validate = .ok () := by decide
  exact ⟨hvalid, ((plain 120).keepsMinuteQuota_iff_of_validate hvalid).1.mpr (by decide)⟩

/-- A minute's counter that lives for a second is found valid. -/
theorem not_keepsMinuteQuota_of_validate :
    ¬∀ s : Settings, s.validate = .ok () → s.limiter.KeepsMinuteQuota := by
  intro h
  have hvalid : (plain 1).validate = .ok () := by decide
  exact absurd ((plain 1).limiter.keepsMinuteQuota_iff.mp (h (plain 1) hvalid)) (by decide)

end Settings

end TenantGateway
