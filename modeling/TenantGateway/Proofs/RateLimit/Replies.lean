import TenantGateway.RateLimit.RemoteStore
import TenantGateway.Pipeline.Stage
import TenantGateway.Proofs.Net.Headers
import TenantGateway.Proofs.RateLimit.Admission
import TenantGateway.Proofs.RateLimit.Waiting

/-! Whatever integers a remote store's script returns, a request comes to a well-formed end: a
decision that gives the denied a time to wait, or what the policy says about a store that fails. -/
namespace TenantGateway
open RateLimit
open Calendar (Timestamp)

namespace RateLimit

/-- The two integers with which a script tells an outcome. -/
def CounterOutcome.code : CounterOutcome → List Int64
  | .incremented => [1, 0]
  | .dailyExceeded => [0, 1]
  | .minuteExceeded => [0, 2]

/-- Six integers that begin with an outcome. -/
def IsReply (values : List Int64) : Prop :=
  values.length = 6 ∧ ∃ o : CounterOutcome, o.code <+: values

/-- What the remote store makes of a script's integers. -/
def scriptReply (values : List Int64) : Except StoreError CounterReply :=
  readReply (values.map Int64.toInt)

/-- What is left of a limit after a count that the script tells. -/
def leftOf (limit : UInt64) (count : Int64) : Int := max (limit.toNat - max count.toInt 0) 0

/-- What a decision owes to a script's integers. -/
structure Decision.Reflects (d : Decision) (quota : Quota) (values : List Int64) : Prop where
  allowed_iff : d.allowed = true ↔ [1, 0] <+: values
  daily_iff : d.exceeded = some .daily ↔ [0, 1] <+: values
  minute_iff : d.exceeded = some .minute ↔ [0, 2] <+: values
  dailyRemaining : ∃ count, values[2]? = some count ∧
    d.dailyRemaining.toNat = leftOf quota.requestsPerDay count
  minuteRemaining : ∃ count, values[3]? = some count ∧
    d.minuteRemaining.toNat = leftOf quota.minuteCeiling count
  resetMinute : 1 ≤ d.resetMinute ∧ d.resetMinute ≤ 60
  resetDaily : 1 ≤ d.resetDaily
  retryAfter_pos : 1 ≤ d.retryAfter ↔ d.allowed = false
  retryAfter_zero : d.retryAfter = 0 ↔ d.allowed = true

end RateLimit

/-- A response that tells one wait in both headers and in its body. -/
structure Net.Response.Announces (r : Net.Response) (seconds : UInt64) : Prop where
  status : r.status = 429
  retryAfter : r.headers.getAll "retry-after" = [toString seconds]
  reset : r.headers.getAll "x-ratelimit-reset" = [toString seconds]
  body : ∃ members, r.body = (Json.object [("error", .object members)]).render ∧
    members.filter (·.1 = "retry_after_secs") = [("retry_after_secs", .word seconds)]

/-- What a request comes to when a script has returned integers. -/
structure RateLimit.Limiter.WellFormed (l : Limiter) (quota : Quota) (delay : Duration)
    (values : List Int64) (outcome : Limiter.Outcome)
    (admission : Option (Except LimiterError Admission)) : Prop where
  wire : readWire (.array (values.map fun n => .integer n.toInt)) = scriptReply values
  readable_iff : (∃ reply, scriptReply values = .ok reply) ↔ IsReply values
  decided : IsReply values → delay ≤ l.timeout → ∃ d : Decision,
    outcome = .answer (.ok d) ∧ d.Reflects quota values ∧
      admission = some (.ok (if d.allowed then .allowed d else .denied d))
  /-- The client of a denied request is told the same wait three times. -/
  announced : ∀ d, admission = some (.ok (.denied d)) →
    ∀ (direction : Pipeline.Direction) (a : Pipeline.Arrival), ∃ refusal,
      Pipeline.Stage.afterCounting direction admission =
        .answered (some direction.service) (.error refusal) ∧
      (a.response (.error refusal)).Announces d.retryAfter
  degraded : ¬ IsReply values ∨ l.timeout < delay → l.policy = .failOpen →
    ∃ reason, admission = some (.ok (.degraded reason))
  failed : ¬ IsReply values ∨ l.timeout < delay → l.policy = .failClosed →
    ∃ e, admission = some (.error e)

namespace RateLimit

private theorem isReply_iff {values : List Int64} :
    IsReply values ↔ ∃ (o : CounterOutcome) (daily minute dailyTtl minuteTtl : Int64),
      values = o.code ++ [daily, minute, dailyTtl, minuteTtl] := by
  constructor
  · rintro ⟨hlength, o, rest, rfl⟩
    have hrest : rest.length = 4 := by
      cases o <;> simpa [CounterOutcome.code] using hlength
    match rest, hrest with
    | [daily, minute, dailyTtl, minuteTtl], _ => exact ⟨o, daily, minute, dailyTtl, minuteTtl, rfl⟩
  · rintro ⟨o, daily, minute, dailyTtl, minuteTtl, rfl⟩
    exact ⟨by cases o <;> rfl, o, List.prefix_append _ _⟩

private theorem code_prefix_iff {o e : CounterOutcome} {rest : List Int64} :
    o.code <+: e.code ++ rest ↔ e = o := by
  cases o <;> cases e <;> simp [CounterOutcome.code]

-- The reply that a script's outcome, counts and lifetimes stand for.
private def replyOf (o : CounterOutcome) (daily minute dailyTtl minuteTtl : Int64) : CounterReply :=
  { outcome := o
    dailyCount := replyCount daily.toInt
    minuteCount := replyCount minute.toInt
    dailyTtl := replyTtl dailyTtl.toInt
    minuteTtl := replyTtl minuteTtl.toInt }

private theorem scriptReply_code (o : CounterOutcome) (daily minute dailyTtl minuteTtl : Int64) :
    scriptReply (o.code ++ [daily, minute, dailyTtl, minuteTtl]) =
      .ok (replyOf o daily minute dailyTtl minuteTtl) := by
  cases o <;> rfl

private theorem isReply_of_scriptReply {values : List Int64} {reply : CounterReply}
    (h : scriptReply values = .ok reply) : IsReply values := by
  have eq_of_toInt {a b : Int64} (h : a.toInt = b.toInt) : a = b := Int64.toInt_inj.mp h
  rw [isReply_iff]
  match values with
  | [a, b, daily, minute, dailyTtl, minuteTtl] =>
    simp only [scriptReply, List.map_cons, List.map_nil, readReply] at h
    split at h
    next hcode =>
      obtain rfl := eq_of_toInt (b := 1) hcode.1
      obtain rfl := eq_of_toInt (b := 0) hcode.2
      exact ⟨.incremented, daily, minute, dailyTtl, minuteTtl, rfl⟩
    next =>
      split at h
      next hcode =>
        obtain rfl := eq_of_toInt (b := 0) hcode.1
        obtain rfl := eq_of_toInt (b := 1) hcode.2
        exact ⟨.dailyExceeded, daily, minute, dailyTtl, minuteTtl, rfl⟩
      next =>
        split at h
        next hcode =>
          obtain rfl := eq_of_toInt (b := 0) hcode.1
          obtain rfl := eq_of_toInt (b := 2) hcode.2
          exact ⟨.minuteExceeded, daily, minute, dailyTtl, minuteTtl, rfl⟩
        next => exact absurd h (by simp)
  | [] | [_] | [_, _] | [_, _, _] | [_, _, _, _] | [_, _, _, _, _]
  | _ :: _ :: _ :: _ :: _ :: _ :: _ :: _ =>
    simp [scriptReply, readReply] at h

private theorem toNat_remaining_replyCount (limit : UInt64) (count : Int64) :
    ((Decision.remaining limit (replyCount count.toInt)).toNat : Int) = leftOf limit count := by
  have hcount := count.toInt_lt
  have hread : (replyCount count.toInt).toNat = count.toInt.toNat :=
    UInt64.toNat_ofNat_of_lt' (by simp only [UInt64.size]; omega)
  rw [toNat_remaining, hread, leftOf]
  omega

private theorem one_le_iff_ne_zero {n : UInt64} : 1 ≤ n ↔ n ≠ 0 := by
  rw [UInt64.le_iff_toNat_le, ne_eq, ← UInt64.toNat_inj, UInt64.toNat_one, UInt64.toNat_zero]
  omega

private theorem one_le_resetDaily (ttl : Option UInt64) (t : Timestamp) :
    1 ≤ (ttl.filter (0 < ·)).getD (secondsUntilMidnight t) := by
  have hmidnight := (secondsUntilMidnight_bounds t).1
  cases hfilter : ttl.filter (0 < ·) with
  | none => exact UInt64.le_iff_toNat_le.mpr hmidnight
  | some n =>
    have hpos := (Option.filter_eq_some_iff.mp hfilter).2
    rw [decide_eq_true_eq, UInt64.lt_iff_toNat_lt] at hpos
    exact UInt64.le_iff_toNat_le.mpr hpos

private theorem one_le_retryAfter_iff (d : Decision) (hday : 1 ≤ d.resetDaily)
    (hminute : 1 ≤ d.resetMinute) : 1 ≤ d.retryAfter ↔ d.exceeded.isNone = false := by
  rw [Decision.retryAfter]
  cases d.exceeded with
  | none => exact iff_of_false (show ¬ (1 : UInt64) ≤ 0 by decide) Bool.true_eq_false.mp
  | some w =>
    cases w with
    | daily => exact iff_of_true hday rfl
    | minute => exact iff_of_true hminute rfl

private theorem reflects_ofReply (l : Limiter) (organization : String) (quota : Quota)
    (now : Timestamp) (o : CounterOutcome) (daily minute dailyTtl minuteTtl : Int64) :
    (Decision.ofReply (l.query organization quota now)
      (replyOf o daily minute dailyTtl minuteTtl) now).Reflects quota
      (o.code ++ [daily, minute, dailyTtl, minuteTtl]) := by
  have hday := one_le_resetDaily (replyTtl dailyTtl.toInt) now
  obtain ⟨hminute, hminute'⟩ := secondsUntilNextMinute_bounds now
  rw [← UInt64.toNat_one, ← UInt64.le_iff_toNat_le] at hminute
  have hretry := one_le_retryAfter_iff (Decision.ofReply (l.query organization quota now)
    (replyOf o daily minute dailyTtl minuteTtl) now) hday hminute
  exact {
    allowed_iff := by
      rw [show ([1, 0] : List Int64) = CounterOutcome.incremented.code from rfl, code_prefix_iff]
      cases o <;> simp [Decision.ofReply, replyOf, CounterOutcome.exceeded]
    daily_iff := by
      rw [show ([0, 1] : List Int64) = CounterOutcome.dailyExceeded.code from rfl, code_prefix_iff]
      cases o <;> simp [Decision.ofReply, replyOf, CounterOutcome.exceeded]
    minute_iff := by
      rw [show ([0, 2] : List Int64) = CounterOutcome.minuteExceeded.code from rfl, code_prefix_iff]
      cases o <;> simp [Decision.ofReply, replyOf, CounterOutcome.exceeded]
    dailyRemaining := ⟨daily, by cases o <;> rfl, toNat_remaining_replyCount _ daily⟩
    minuteRemaining := ⟨minute, by cases o <;> rfl, toNat_remaining_replyCount _ minute⟩
    resetMinute := ⟨hminute, UInt64.le_iff_toNat_le.mpr hminute'⟩
    resetDaily := hday
    retryAfter_pos := hretry
    retryAfter_zero := not_iff_not.mp
      ((one_le_iff_ne_zero.symm.trans hretry).trans (Bool.not_eq_true _).symm.to_iff) }

private theorem toInt_mapM (values : List Int64) :
    (values.map fun n => WireValue.integer n.toInt).mapM WireValue.integer? =
      some (values.map Int64.toInt) := by
  induction values with
  | nil => rfl
  | cons n values ih =>
    have hrange : -0x8000000000000000 ≤ n.toInt ∧ n.toInt < 0x8000000000000000 :=
      ⟨n.le_toInt, n.toInt_lt⟩
    rw [List.map_cons, List.mapM_cons, ih, WireValue.integer?, if_pos hrange]
    rfl

end RateLimit

private theorem announces_response (a : Pipeline.Arrival) {d : Decision} (hd : d.allowed = false) :
    (a.response (.error (.rateLimitExceeded d))).Announces d.retryAfter where
  status := rfl
  retryAfter := by
    rw [Pipeline.Arrival.response, Headers.getAll_setValid_of_ne _ _ (by decide)]
    rfl
  reset := by
    rw [Pipeline.Arrival.response, Headers.getAll_setValid_of_ne _ _ (by decide)]
    simp only [Pipeline.refusalResponse, Refusal.headers, rateLimitHeaders, hd]
    rfl
  body := ⟨_, rfl, rfl⟩

namespace RateLimit.Limiter

-- The admission at the end of a call, which breaks off where a deadline is out of range.
private def ending (l : Limiter) : Outcome → Option (Except LimiterError Admission)
  | .answer r => some (l.applyPolicy r)
  | .deadlineOverflow => none

private theorem settle_of_reply (l : Limiter) (q : CounterQuery) (now : Timestamp)
    {delay : Duration} (hdelay : delay ≤ l.timeout) {values : List Int64} {reply : CounterReply}
    (h : scriptReply values = .ok reply) :
    (l.settle q now delay ((scriptReply values).mapError .error)).1 =
      .answer (.ok (.ofReply q reply now)) := by
  have hintime : ¬ l.timeout < delay := Nat.not_lt.mpr hdelay
  simp only [h, settle, if_neg hintime, Except.mapError]

private theorem exists_error_of_unusable (l : Limiter) (q : CounterQuery) (now : Timestamp)
    {delay : Duration} {values : List Int64} (h : ¬ IsReply values ∨ l.timeout < delay) :
    ∃ e, (l.settle q now delay ((scriptReply values).mapError .error)).1 = .answer (.error e) := by
  by_cases hlate : l.timeout < delay
  · exact ⟨.timeout l.timeout, by simp only [settle, if_pos hlate]⟩
  · cases hreply : scriptReply values with
    | ok reply => exact absurd (isReply_of_scriptReply hreply) (h.resolve_right hlate)
    | error e => exact ⟨.unavailable e, by simp only [settle, if_neg hlate, Except.mapError]⟩

private theorem not_allowed_of_denied {l : Limiter} {outcome : Outcome} {d : Decision}
    (h : l.ending outcome = some (.ok (.denied d))) : d.allowed = false := by
  rcases outcome with (e | d') | _
  · cases hpolicy : l.policy <;> simp [ending, applyPolicy, hpolicy] at h
  · cases hd' : d'.allowed with
    | false =>
      simp only [ending, applyPolicy, hd', Bool.false_eq_true, if_false] at h
      cases h
      exact hd'
    | true => simp [ending, applyPolicy, hd'] at h
  · cases h

private theorem wellFormed_settle (l : Limiter) (organization : String) (quota : Quota)
    (now : Timestamp) (delay : Duration) (values : List Int64) {outcome : Outcome}
    (houtcome : outcome = (l.settle (l.query organization quota now) now delay
      ((scriptReply values).mapError .error)).1) :
    l.WellFormed quota delay values outcome (l.ending outcome) where
  wire := by rw [readWire, WireValue.integers?, toInt_mapM, scriptReply]
  readable_iff := by
    refine ⟨fun ⟨_, h⟩ => isReply_of_scriptReply h, fun h => ?_⟩
    obtain ⟨o, daily, minute, dailyTtl, minuteTtl, rfl⟩ := isReply_iff.mp h
    exact ⟨_, scriptReply_code o daily minute dailyTtl minuteTtl⟩
  decided hreply hdelay := by
    obtain ⟨o, daily, minute, dailyTtl, minuteTtl, rfl⟩ := isReply_iff.mp hreply
    have hcode := scriptReply_code o daily minute dailyTtl minuteTtl
    rw [houtcome, l.settle_of_reply _ now hdelay hcode]
    exact ⟨_, rfl, reflects_ofReply l organization quota now o daily minute dailyTtl minuteTtl, rfl⟩
  announced d hdenied direction a := by
    have hd := not_allowed_of_denied hdenied
    rw [hdenied]
    exact ⟨_, rfl, announces_response a hd⟩
  degraded h hpolicy := by
    obtain ⟨e, he⟩ := l.exists_error_of_unusable (l.query organization quota now) now h
    rw [houtcome, he, ending, applyPolicy, hpolicy]
    exact ⟨_, rfl⟩
  failed h hpolicy := by
    obtain ⟨e, he⟩ := l.exists_error_of_unusable (l.query organization quota now) now h
    rw [houtcome, he, ending, applyPolicy, hpolicy]
    exact ⟨_, rfl⟩

end RateLimit.Limiter

namespace Simulation.LimiterSession

/-- The session when a remote store's script returns integers to the next call. -/
def hearing (s : LimiterSession) (delay : Duration) (values : List Int64) : LimiterSession :=
  { s with counters := { s.counters with
      queue := ⟨delay, (scriptReply values).mapError .error⟩ :: s.counters.queue } }

private theorem fst_check_hearing (s : LimiterSession) (delay : Duration) (values : List Int64)
    (organization : String) (quota : Quota) (now : Timestamp) :
    ((s.hearing delay values).check organization quota now).1 =
      (s.limiter.settle (s.limiter.query organization quota now) now delay
        ((scriptReply values).mapError .error)).1 := by
  simp only [check, settle, Counters.call, hearing]
  split <;> rfl

private theorem fst_admissionIn (s : LimiterSession) (organization : String) (quota : Quota)
    (now : Timestamp) :
    (s.admissionIn .calendar organization quota now).1 =
      s.limiter.ending (s.check organization quota now).1 := by
  have hlimiter := s.limiter_settle (s.limiter.query organization quota now) now
    (s.counters.call .calendar (s.limiter.query organization quota now) s.now)
  rw [admissionIn, check]
  generalize s.settle (s.limiter.query organization quota now) now
    (s.counters.call .calendar (s.limiter.query organization quota now) s.now) = settled at *
  obtain ⟨outcome, t⟩ := settled
  cases outcome with
  | answer r => simp only [Limiter.ending, ← hlimiter]
  | deadlineOverflow => rfl

/-- Every list of integers from a script leads to a well-formed end. -/
theorem wellFormed_hearing (s : LimiterSession) (delay : Duration) (values : List Int64)
    (organization : String) (quota : Quota) (now : Timestamp) :
    s.limiter.WellFormed quota delay values
      ((s.hearing delay values).check organization quota now).1
      ((s.hearing delay values).admissionIn .calendar organization quota now).1 := by
  rw [fst_admissionIn]
  exact s.limiter.wellFormed_settle organization quota now delay values
    (s.fst_check_hearing delay values organization quota now)

end Simulation.LimiterSession

end TenantGateway
