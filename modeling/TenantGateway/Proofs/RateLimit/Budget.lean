import TenantGateway.Proofs.RateLimit.Visits
import Mathlib.Algebra.Order.BigOperators.Group.Finset

/-! How many requests of one day are allowed: what the minutes of the day can hold, up to the day's
quota, whoever else calls in between. The order of calls decides which of them are allowed, never how
many. -/
namespace TenantGateway.RateLimit

/-- The end of a call is a decision that refuses the request, because a window is full. -/
def Limiter.Outcome.isDeniedFor (w : LimitType) : Outcome → Bool
  | .answer (.ok d) => d.exceeded = some w
  | _ => false

private theorem dayNumber_eq_of_epochMinute {t : Calendar.Timestamp} {day : Int} {k : Nat}
    (hk : k < 1440) (h : epochMinute t = 1440 * day + k) : t.dayNumber = day := by
  simp only [epochMinute] at h
  simp only [Calendar.Timestamp.dayNumber]
  omega

private theorem dayNumber_congr {t u : Calendar.Timestamp} (h : epochMinute t = epochMinute u) :
    t.dayNumber = u.dayNumber := by
  simp only [epochMinute] at h
  simp only [Calendar.Timestamp.dayNumber]
  omega

/-- A day has 1440 minutes. -/
theorem exists_minute_of_day (t : Calendar.Timestamp) :
    ∃ k < 1440, epochMinute t = 1440 * t.dayNumber + (k : Nat) := by
  refine ⟨(epochMinute t - 1440 * t.dayNumber).toNat, ?_, ?_⟩ <;>
    simp only [epochMinute, Calendar.Timestamp.dayNumber] <;> omega

namespace Call

private theorem isOn_of_isIn {o : String} {day : Int} {k : Nat} (hk : k < 1440) {c : Call}
    (h : c.isIn o (1440 * day + k) = true) : c.isOn o day = true := by
  obtain ⟨ho, hmin⟩ := isIn_iff.mp h
  exact isOn_iff.mpr ⟨ho, dayNumber_eq_of_epochMinute hk hmin⟩

/-- The calls of a day are those of its minutes. -/
theorem countP_isOn_eq_sum (o : String) (day : Int) (calls : List Call) :
    calls.countP (isOn o day) = ∑ k ∈ Finset.range 1440, calls.countP (isIn o (1440 * day + k)) := by
  induction calls with
  | nil => simp only [List.countP_nil, Finset.sum_const_zero]
  | cons c calls ih =>
    have hone : (if c.isOn o day = true then 1 else 0) =
        ∑ k ∈ Finset.range 1440, if c.isIn o (1440 * day + k) = true then 1 else 0 := by
      by_cases hc : c.isOn o day = true
      · obtain ⟨ho, hday⟩ := isOn_iff.mp hc
        obtain ⟨m, hm, hmin⟩ := exists_minute_of_day c.time
        rw [hday] at hmin
        have hin : c.isIn o (1440 * day + m) = true := isIn_iff.mpr ⟨ho, hmin⟩
        rw [if_pos hc, Finset.sum_eq_single_of_mem m (Finset.mem_range.mpr hm), if_pos hin]
        intro k _ hne
        refine if_neg fun hk => hne ?_
        have hk' := (isIn_iff.mp hk).2
        omega
      · rw [if_neg hc, Finset.sum_eq_zero]
        intro k hk
        exact if_neg fun hin => hc (isOn_of_isIn (Finset.mem_range.mp hk) hin)
    simp only [List.countP_cons, Finset.sum_add_distrib, ih, hone]

end Call

namespace Visit

/-- Visits on clocks that advance in step, with minute counters that live for a minute at least. -/
structure Steady (visits : List Visit) : Prop extends Regular visits where
  inStep : InStep (visits.map toCall)
  lifetime : ∀ v ∈ visits, 60 ≤ v.limiter.minuteTtl

private theorem countP_admitted_le_countP (p : Call → Bool) (visits : List Visit) :
    (admitted visits).countP p ≤ visits.countP fun v => p v.toCall := by
  induction visits using List.reverseRecOn with
  | nil => exact Nat.zero_le _
  | append_singleton past v ih =>
    rw [countP_admitted_snoc, List.countP_append, List.countP_singleton]
    refine Nat.add_le_add ih ?_
    split
    next hboth => rw [if_pos hboth.2]
    next => exact Nat.zero_le _

/-- Where every visit of a kind is allowed, all of them count. -/
theorem countP_admitted_eq_countP {p : Call → Bool} {visits : List Visit}
    (h : ∀ past v more, visits = past ++ v :: more → p v.toCall = true →
      (outcomeAfter past v).isAllowed = true) :
    (admitted visits).countP p = visits.countP fun v => p v.toCall := by
  induction visits using List.reverseRecOn with
  | nil => rfl
  | append_singleton past v ih =>
    have hpast := ih fun before e more he =>
      h before e (more ++ [v]) (by rw [he, List.append_assoc, List.cons_append])
    rw [countP_admitted_snoc, List.countP_append, List.countP_singleton, hpast]
    congr 1
    by_cases hv : p v.toCall = true
    · rw [if_pos ⟨h past v [] rfl hv, hv⟩, if_pos hv]
    · rw [if_neg fun hboth => hv hboth.2, if_neg hv]

namespace Steady

variable {visits past more : List Visit} {v : Visit} {o : String} {q : Quota} {day : Int}

private theorem left (h : Steady (past ++ more)) : Steady past where
  toRegular := h.toRegular.left
  inStep := by
    obtain ⟨offset, hoff⟩ := h.inStep
    refine ⟨offset, fun c hc => hoff c ?_⟩
    rw [List.map_append]
    exact List.mem_append_left _ hc
  lifetime := fun v hv => h.lifetime v (List.mem_append_left _ hv)

/-- A window's counter outlives its window. -/
theorem exists_outlives (h : Steady visits) : ∃ expected : Call → Prop,
    (∀ v ∈ visits, expected v.toCall) ∧
      ∀ w, ∀ v ∈ visits, v.limiter.Outlives expected w := by
  obtain ⟨offset, hoff⟩ := h.inStep
  exact ⟨fun c => c.time.unixNanos = c.instant.nanos + offset,
    fun v hv => hoff v.toCall (List.mem_map_of_mem hv),
    fun w v hv => v.limiter.outlives_of_inStep (h.lifetime v hv) offset w⟩

/-- A visit is decided by the calls that were allowed before it. -/
theorem follows (h : Steady (past ++ [v])) : ∃ d, outcomeAfter past v = .answer (.ok d) ∧
    d.Follows v.toCall (fun w => v.tally w (admitted past)) := by
  obtain ⟨expected, hexp, hout⟩ := h.exists_outlives
  obtain ⟨d, hd, hf⟩ := outcomeAfter_follows h.toRegular
  refine ⟨d, hd, ?_⟩
  have hcounts : (fun w => (MemoryStore.count (run past).store.counters (v.key w) v.instant).toNat)
      = fun w => v.tally w (admitted past) :=
    funext fun w => count_eq_tally h.toRegular hexp (hout w)
  rwa [hcounts] at hf

private theorem isAllowed_iff (h : Steady (past ++ [v])) : (outcomeAfter past v).isAllowed = true ↔
    ∀ w, v.tally w (admitted past) < v.limit w := by
  obtain ⟨d, hd, hf⟩ := h.follows
  rw [hd]
  exact ⟨fun hallowed => hf.lt_limit hallowed, hf.allowed_of_lt⟩

private theorem limit_le_of_isDeniedFor_daily (h : Steady (past ++ [v]))
    (hd : (outcomeAfter past v).isDeniedFor .daily = true) :
    v.limit .daily ≤ v.tally .daily (admitted past) := by
  obtain ⟨d, hout, hf⟩ := h.follows
  rw [hout, Limiter.Outcome.isDeniedFor, decide_eq_true_eq] at hd
  exact hf.limit_le hd

/-- Calls of one window with one quota find the same limit, and the later one finds it no emptier. -/
theorem tally_lt_limit {e : Call} {between : List Visit} {w : LimitType} (hs : v.Shares e w)
    (hq : v.quota = e.quota) (hlt : e.tally w (admitted (past ++ v :: between)) < e.limit w) :
    v.tally w (admitted past) < v.limit w := by
  have hlimit : v.limit w = e.limit w := by cases w <;> simp only [Call.limit, hq]
  rw [hlimit, Call.tally_eq_of_shares hs]
  exact Nat.lt_of_le_of_lt (tally_le e w past (v :: between)) hlt

private theorem countP_isOn_le (h : Steady visits)
    (hq : ∀ v ∈ visits, v.isOn o day = true → v.quota = q) :
    (admitted visits).countP (Call.isOn o day) ≤ q.requestsPerDay.toNat := by
  obtain ⟨expected, hexp, hout⟩ := h.exists_outlives
  refine countP_admitted_le h.toRegular hexp (hout .daily) Call.isOn_iff_shares fun v hv hon => ?_
  rw [← hq v hv hon]
  exact Nat.le_refl _

private theorem countP_isIn_le (h : Steady visits) {k : Nat} (hk : k < 1440)
    (hq : ∀ v ∈ visits, v.isOn o day = true → v.quota = q) :
    (admitted visits).countP (Call.isIn o (1440 * day + k)) ≤ q.minuteCeiling.toNat := by
  obtain ⟨expected, hexp, hout⟩ := h.exists_outlives
  refine countP_admitted_le h.toRegular hexp (hout .minute) Call.isIn_iff_shares fun v hv hin => ?_
  rw [← hq v hv (Call.isOn_of_isIn hk hin), Call.limit_minute]

/-- While the day's quota lasts, a minute admits what it can hold. -/
theorem countP_isIn_eq (h : Steady visits) {k : Nat} (hk : k < 1440)
    (hq : ∀ v ∈ visits, v.isOn o day = true → v.quota = q)
    (hopen : (admitted visits).countP (Call.isOn o day) < q.requestsPerDay.toNat) :
    (admitted visits).countP (Call.isIn o (1440 * day + k)) =
      min (visits.countP fun v => v.isIn o (1440 * day + k)) q.minuteCeiling.toNat := by
  have hasked := countP_admitted_le_countP (Call.isIn o (1440 * day + k)) visits
  have hceiling := h.countP_isIn_le hk hq
  by_cases hfull :
      (admitted visits).countP (Call.isIn o (1440 * day + k)) < q.minuteCeiling.toNat
  · -- Neither window of such a visit is ever full, so that every one of them is allowed.
    have hall : (admitted visits).countP (Call.isIn o (1440 * day + k)) =
        visits.countP fun v => v.isIn o (1440 * day + k) := by
      refine countP_admitted_eq_countP fun past v more hsplit hin => ?_
      have hon := Call.isOn_of_isIn hk hin
      have hquota : v.quota = q := hq v (by simp [hsplit]) hon
      have hroom : ∀ w, v.tally w (admitted visits) < v.limit w := by
        intro w
        cases w with
        | daily => rwa [Call.tally_eq_countP (Call.isOn_iff_shares hon), Call.limit, hquota]
        | minute =>
          rwa [Call.tally_eq_countP (Call.isIn_iff_shares hin), Call.limit_minute, hquota]
      rw [hsplit] at hroom
      rw [hsplit, List.append_cons] at h
      refine h.left.isAllowed_iff.mpr fun w => ?_
      exact Nat.lt_of_le_of_lt (tally_le v.toCall w past (v :: more)) (hroom w)
    omega
  · omega

end Steady

/-- What becomes of the visits for an organization on a day on which it has one quota. -/
structure Budgeted (o : String) (q : Quota) (day : Int) (visits : List Visit) : Prop where
  total : (admitted visits).countP (Call.isOn o day) =
    min q.requestsPerDay.toNat (∑ k ∈ Finset.range 1440,
      min (visits.countP fun v => v.isIn o (1440 * day + k)) q.minuteCeiling.toNat)
  /-- In one minute the allowed visits come first. -/
  allowedFirst : ∀ past v between e future, visits = past ++ v :: (between ++ e :: future) →
    v.isOn o day = true → e.isIn o (epochMinute v.time) = true →
    (outcomeAfter (past ++ v :: between) e).isAllowed = true →
    (outcomeAfter past v).isAllowed = true
  noneAfterDenial : ∀ past v between e future, visits = past ++ v :: (between ++ e :: future) →
    v.isOn o day = true → e.isOn o day = true →
    (outcomeAfter past v).isDeniedFor .daily = true →
    (outcomeAfter (past ++ v :: between) e).isAllowed = false

namespace Steady

variable {visits past between future : List Visit} {v e : Visit} {o : String} {q : Quota} {day : Int}

private theorem first (h : Steady (past ++ v :: (between ++ e :: future))) :
    Steady (past ++ [v]) := by
  rw [List.append_cons] at h
  exact h.left

private theorem second (h : Steady (past ++ v :: (between ++ e :: future))) :
    Steady ((past ++ v :: between) ++ [e]) := by
  have hsplit : past ++ v :: (between ++ e :: future) =
      ((past ++ v :: between) ++ [e]) ++ future := by
    simp only [List.append_assoc, List.cons_append, List.nil_append]
  rw [hsplit] at h
  exact h.left

private theorem total (h : Steady visits) (hq : ∀ v ∈ visits, v.isOn o day = true → v.quota = q) :
    (admitted visits).countP (Call.isOn o day) =
      min q.requestsPerDay.toNat (∑ k ∈ Finset.range 1440,
        min (visits.countP fun v => v.isIn o (1440 * day + k)) q.minuteCeiling.toNat) := by
  have hday := h.countP_isOn_le hq
  have hsum := Call.countP_isOn_eq_sum o day (admitted visits)
  by_cases hopen : (admitted visits).countP (Call.isOn o day) < q.requestsPerDay.toNat
  · have hminutes : ∑ k ∈ Finset.range 1440,
        (admitted visits).countP (Call.isIn o (1440 * day + k)) =
        ∑ k ∈ Finset.range 1440,
          min (visits.countP fun v => v.isIn o (1440 * day + k)) q.minuteCeiling.toNat :=
      Finset.sum_congr rfl fun k hk => h.countP_isIn_eq (Finset.mem_range.mp hk) hq hopen
    omega
  · have hminutes : ∑ k ∈ Finset.range 1440,
        (admitted visits).countP (Call.isIn o (1440 * day + k)) ≤
        ∑ k ∈ Finset.range 1440,
          min (visits.countP fun v => v.isIn o (1440 * day + k)) q.minuteCeiling.toNat :=
      Finset.sum_le_sum fun k hk => Nat.le_min.mpr
        ⟨countP_admitted_le_countP _ _, h.countP_isIn_le (Finset.mem_range.mp hk) hq⟩
    omega

end Steady

/-- On clocks that advance in step, an organization with one quota has exactly as many requests
allowed in a day as its minutes can hold, up to the day's quota. Who else calls in between, and in
which order, does not matter. -/
theorem budgeted_of_steady (visits : List Visit) (o : String) (q : Quota) (day : Int)
    (h : Steady visits) (hq : ∀ v ∈ visits, v.isOn o day = true → v.quota = q) :
    Budgeted o q day visits where
  total := h.total hq
  allowedFirst := by
    rintro past v between e future rfl hv he hallowed
    have heday : e.isOn o day = true := by
      obtain ⟨ho, hmin⟩ := Call.isIn_iff.mp he
      exact Call.isOn_iff.mpr ⟨ho, (dayNumber_congr hmin).trans (Call.isOn_iff.mp hv).2⟩
    have hvmin : v.isIn o (epochMinute v.time) = true :=
      Call.isIn_iff.mpr ⟨(Call.isOn_iff.mp hv).1, rfl⟩
    have hquota : v.quota = e.quota := (hq v (by simp) hv).trans (hq e (by simp) heday).symm
    have hroom := h.second.isAllowed_iff.mp hallowed
    refine h.first.isAllowed_iff.mpr fun w => ?_
    cases w with
    | daily =>
      exact Steady.tally_lt_limit ((Call.isOn_iff_shares heday v.toCall).mp hv) hquota
        (hroom .daily)
    | minute =>
      exact Steady.tally_lt_limit ((Call.isIn_iff_shares he v.toCall).mp hvmin) hquota
        (hroom .minute)
  noneAfterDenial := by
    rintro past v between e future rfl hv he hdenied
    have hquota : v.quota = e.quota := (hq v (by simp) hv).trans (hq e (by simp) he).symm
    have hfull := h.first.limit_le_of_isDeniedFor_daily hdenied
    refine Bool.eq_false_iff.mpr fun hallowed => ?_
    have hroom := h.second.isAllowed_iff.mp hallowed .daily
    have hlt := Steady.tally_lt_limit ((Call.isOn_iff_shares he v.toCall).mp hv) hquota hroom
    exact Nat.not_le.mpr hlt hfull

/-- Two calls in the first minute and one in each of the next two, with a stranger's in between. -/
theorem budgeted_of_steady_in_three_minutes :
    let visits := [knock "a" 10 10 (by decide), knock "b" 15 15 (by decide),
      knock "a" 20 20 (by decide), knock "a" 70 70 (by decide), knock "a" 130 130 (by decide)]
    Steady visits ∧ (∀ v ∈ visits, v.isOn "a" 0 = true → v.quota = ⟨1, 2, 0⟩) ∧
      Budgeted "a" ⟨1, 2, 0⟩ 0 visits := by
  intro visits
  have hmem : ∀ v ∈ visits, ∃ o n, ∃ h : n < 86400, v = knock o n n h := by
    intro v hv
    simp only [visits, List.mem_cons, List.not_mem_nil, or_false] at hv
    rcases hv with rfl | rfl | rfl | rfl | rfl <;> exact ⟨_, _, _, rfl⟩
  have hsteady : Steady visits := by
    refine ⟨⟨by simp [visits, knock], ?_⟩, ⟨0, ?_⟩, ?_⟩
    · intro v hv w
      simp only [visits, List.mem_cons, List.not_mem_nil, or_false] at hv
      rcases hv with rfl | rfl | rfl | rfl | rfl <;> cases w <;> decide
    · intro c hc
      obtain ⟨v, hv, rfl⟩ := List.mem_map.mp hc
      obtain ⟨o, n, h, rfl⟩ := hmem v hv
      simp [knock, Calendar.Timestamp.unixNanos]
    · intro v hv
      obtain ⟨o, n, h, rfl⟩ := hmem v hv
      exact UInt64.le_refl 60
  have hq : ∀ v ∈ visits, v.isOn "a" 0 = true → v.quota = ⟨1, 2, 0⟩ := by
    intro v hv _
    obtain ⟨o, n, h, rfl⟩ := hmem v hv
    rfl
  exact ⟨hsteady, hq, budgeted_of_steady visits "a" ⟨1, 2, 0⟩ 0 hsteady hq⟩

end Visit

end TenantGateway.RateLimit
