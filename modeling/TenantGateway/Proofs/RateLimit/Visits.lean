import TenantGateway.Proofs.RateLimit.History

/-! Counters that several limiters share, as gateways do. Their calls come one after the other, in any
order, and each is judged by the calls that were allowed before it. -/
namespace TenantGateway.RateLimit
open MemoryStore

namespace Call

/-- A call for an organization on a day, counted from 1970. -/
def isOn (o : String) (day : Int) (c : Call) : Bool :=
  c.organization = o ∧ c.time.dayNumber = day

/-- A call for an organization in a minute, counted from 1970. -/
def isIn (o : String) (minute : Int) (c : Call) : Bool :=
  c.organization = o ∧ epochMinute c.time = minute

theorem isOn_iff {o : String} {day : Int} {c : Call} :
    c.isOn o day = true ↔ c.organization = o ∧ c.time.dayNumber = day := decide_eq_true_iff

theorem isIn_iff {o : String} {minute : Int} {c : Call} :
    c.isIn o minute = true ↔ c.organization = o ∧ epochMinute c.time = minute := decide_eq_true_iff

/-- The calls of a day are those that share it with one of them. -/
theorem isOn_iff_shares {o : String} {day : Int} {c : Call} (h : c.isOn o day = true) (e : Call) :
    e.isOn o day = true ↔ e.Shares c .daily := by
  obtain ⟨rfl, rfl⟩ := isOn_iff.mp h
  exact isOn_iff.trans (and_congr_right fun _ => date_eq_iff.symm)

/-- The calls of a minute are those that share it with one of them. -/
theorem isIn_iff_shares {o : String} {minute : Int} {c : Call} (h : c.isIn o minute = true)
    (e : Call) : e.isIn o minute = true ↔ e.Shares c .minute := by
  obtain ⟨rfl, rfl⟩ := isIn_iff.mp h
  exact isIn_iff

/-- The limit of a minute is the quota with its burst allowance. -/
theorem limit_minute (c : Call) : c.limit .minute = c.quota.minuteCeiling.toNat :=
  (Quota.toNat_addCapped _ _).symm

/-- A tally counts the calls of a window. -/
theorem tally_eq_countP {c : Call} {w : LimitType} {p : Call → Bool}
    (hp : ∀ e, p e = true ↔ e.Shares c w) (l : List Call) : c.tally w l = l.countP p :=
  List.countP_congr fun e _ => decide_eq_true_iff.trans (hp e).symm

end Call

/-- An allowed call has found both windows below their limits. -/
theorem Decision.Follows.lt_limit {d : Decision} {c : Call} {n : LimitType → Nat}
    (hf : d.Follows c n) (ha : d.allowed = true) (w : LimitType) : n w < c.limit w := by
  have hnone : d.exceeded = none := Option.isNone_iff_eq_none.mp (hf.allowed.symm.trans ha)
  have hrule := hf.exceeded.symm.trans hnone
  by_cases hday : c.limit .daily ≤ n .daily
  · rw [if_pos hday] at hrule
    contradiction
  · rw [if_neg hday] at hrule
    by_cases hmin : c.limit .minute ≤ n .minute
    · rw [if_pos hmin] at hrule
      contradiction
    · cases w with
      | daily => exact Nat.lt_of_not_le hday
      | minute => exact Nat.lt_of_not_le hmin

/-- A call that finds both windows below their limits is allowed. -/
theorem Decision.Follows.allowed_of_lt {d : Decision} {c : Call} {n : LimitType → Nat}
    (hf : d.Follows c n) (hlt : ∀ w, n w < c.limit w) : d.allowed = true := by
  rw [hf.allowed, hf.exceeded, if_neg (Nat.not_le.mpr (hlt .daily)),
    if_neg (Nat.not_le.mpr (hlt .minute))]
  rfl

/-- A call that is refused for a window has found as many calls in it as its limit says. -/
theorem Decision.Follows.limit_le {d : Decision} {c : Call} {n : LimitType → Nat} {w : LimitType}
    (hf : d.Follows c n) (hw : d.exceeded = some w) : c.limit w ≤ n w := by
  have hrule := hf.exceeded.symm.trans hw
  by_cases hday : c.limit .daily ≤ n .daily
  · rw [if_pos hday] at hrule
    cases hrule
    exact hday
  · rw [if_neg hday] at hrule
    by_cases hmin : c.limit .minute ≤ n .minute
    · rw [if_pos hmin] at hrule
      cases hrule
      exact hmin
    · rw [if_neg hmin] at hrule
      contradiction

/-- A call with the limiter that makes it. -/
structure Visit extends Call where
  limiter : Limiter
  deriving DecidableEq

namespace Visit

/-- One more visit. -/
def extend (t : Limiter.Trail) (v : Visit) : Limiter.Trail := v.limiter.extend t v.toCall

/-- The trail of visits to a new store. -/
def run (visits : List Visit) : Limiter.Trail := visits.foldl extend ⟨.empty, []⟩

/-- The calls that were allowed. -/
def admitted (visits : List Visit) : List Call := (run visits).admitted

/-- How a visit ends that comes after others. -/
def outcomeAfter (past : List Visit) (v : Visit) : Limiter.Outcome :=
  (v.limiter.call (run past).store v.toCall).1

/-- Visits one after the other, whose deadlines the clock of the store can represent. -/
structure Regular (visits : List Visit) : Prop where
  order : visits.Pairwise fun v e => v.instant ≤ e.instant
  inRange : ∀ v ∈ visits, v.limiter.InRange v.toCall

private theorem run_snoc (past : List Visit) (v : Visit) :
    run (past ++ [v]) = extend (run past) v := by
  simp only [run, List.foldl_append, List.foldl_cons, List.foldl_nil]

/-- The shared store after one more visit. -/
theorem store_snoc (past : List Visit) (v : Visit) :
    (run (past ++ [v])).store = (v.limiter.call (run past).store v.toCall).2 := by
  rw [run_snoc]
  rfl

private theorem admitted_snoc (past : List Visit) (v : Visit) :
    admitted (past ++ [v]) =
      if (outcomeAfter past v).isAllowed then admitted past ++ [v.toCall] else admitted past := by
  rw [admitted, run_snoc]
  rfl

/-- One more visit adds to a count if it is allowed and of the kind that is counted. -/
theorem countP_admitted_snoc (p : Call → Bool) (past : List Visit) (v : Visit) :
    (admitted (past ++ [v])).countP p = (admitted past).countP p +
      if (outcomeAfter past v).isAllowed = true ∧ p v.toCall = true then 1 else 0 := by
  rw [admitted_snoc]
  by_cases ha : (outcomeAfter past v).isAllowed = true
  · rw [if_pos ha, List.countP_append, List.countP_singleton]
    simp only [ha, true_and]
  · rw [if_neg ha, if_neg fun hboth => ha hboth.1, Nat.add_zero]

/-- What was allowed stays allowed. -/
theorem admitted_append (past more : List Visit) : admitted past <+: admitted (past ++ more) := by
  induction more using List.reverseRecOn with
  | nil => exact ⟨[], by rw [List.append_nil, List.append_nil]⟩
  | append_singleton more v ih =>
    rw [← List.append_assoc, admitted_snoc]
    split
    · exact ih.trans (List.prefix_append _ _)
    · exact ih

/-- Tallies only grow. -/
theorem tally_le (c : Call) (w : LimitType) (past more : List Visit) :
    c.tally w (admitted past) ≤ c.tally w (admitted (past ++ more)) :=
  (admitted_append past more).sublist.countP_le

namespace Regular

variable {past more : List Visit} {v : Visit}

/-- The first visits of regular ones are regular. -/
theorem left (h : Regular (past ++ more)) : Regular past where
  order := (List.pairwise_append.mp h.order).1
  inRange := fun v hv => h.inRange v (List.mem_append_left _ hv)

/-- The last visit has the latest instant. -/
theorem le_last (h : Regular (past ++ [v])) : ∀ e ∈ past ++ [v], e.instant ≤ v.instant := by
  intro e he
  rcases List.mem_append.mp he with he | he
  · exact (List.pairwise_append.mp h.order).2.2 e he v (List.mem_singleton_self v)
  · rw [List.mem_singleton.mp he]
    exact Nat.le_refl _

/-- Some instant is past all visits. -/
theorem exists_le (h : Regular more) : ∃ now, ∀ v ∈ more, v.instant ≤ now := by
  rcases List.eq_nil_or_concat more with rfl | ⟨past, v, rfl⟩
  · exact ⟨.start, fun v hv => absurd hv List.not_mem_nil⟩
  · rw [List.concat_eq_append] at h ⊢
    exact ⟨v.instant, h.le_last⟩

/-- The last visit is in the range of the clock. -/
theorem last (h : Regular (past ++ [v])) : v.limiter.InRange v.toCall :=
  h.inRange v (List.mem_append_right _ (List.mem_singleton_self v))

/-- Regular visits leave a store that serves. -/
theorem serving (h : Regular past) : (run past).store.Serving := by
  induction past using List.reverseRecOn with
  | nil => exact serving_empty
  | append_singleton past v ih =>
    rw [store_snoc]
    exact v.limiter.serving_call (ih h.left) h.last

end Regular

variable {expected : Call → Prop} {w : LimitType} {past : List Visit} {v : Visit}

/-- After any visits the store shows those that were allowed. -/
theorem tallied_run {visits : List Visit} (hreg : Regular visits)
    (hexp : ∀ v ∈ visits, expected v.toCall) (hout : ∀ v ∈ visits, v.limiter.Outlives expected w)
    {now : Instant} (hn : ∀ v ∈ visits, v.instant ≤ now) :
    Tallied expected w now (run visits).store (admitted visits) := by
  induction visits using List.reverseRecOn generalizing now with
  | nil => exact tallied_empty expected w now
  | append_singleton past v ih =>
    have hin : ∀ e ∈ past, e ∈ past ++ [v] := fun e he => List.mem_append_left _ he
    have hlast : v ∈ past ++ [v] := List.mem_append_right _ (List.mem_singleton_self v)
    have hprev := ih hreg.left (fun e he => hexp e (hin e he)) (fun e he => hout e (hin e he))
      (fun e he => hreg.le_last e (hin e he))
    rw [store_snoc, admitted_snoc]
    exact (v.limiter.tallied_call hreg.left.serving (hout v hlast) hprev (hexp v hlast)
      (Nat.le_refl _) hreg.last).mono (hn v hlast)

/-- A visit reads the number of calls that were allowed in a window that its counters outlive. -/
theorem count_eq_tally (hreg : Regular (past ++ [v])) (hexp : ∀ e ∈ past ++ [v], expected e.toCall)
    (hout : ∀ e ∈ past ++ [v], e.limiter.Outlives expected w) :
    (count (run past).store.counters (v.key w) v.instant).toNat = v.tally w (admitted past) := by
  have hin : ∀ e ∈ past, e ∈ past ++ [v] := fun e he => List.mem_append_left _ he
  have hlast : v ∈ past ++ [v] := List.mem_append_right _ (List.mem_singleton_self v)
  exact (tallied_run hreg.left (fun e he => hexp e (hin e he)) (fun e he => hout e (hin e he))
    fun e he => hreg.le_last e (hin e he)).count_eq (hexp v hlast) (Nat.le_refl _)

/-- A visit is decided by the counts that it reads. -/
theorem outcomeAfter_follows (hreg : Regular (past ++ [v])) :
    ∃ d, outcomeAfter past v = .answer (.ok d) ∧
      d.Follows v.toCall
        (fun w => (count (run past).store.counters (v.key w) v.instant).toNat) := by
  obtain ⟨d, hd, hf, -⟩ := v.limiter.call_cases hreg.left.serving hreg.last
  exact ⟨d, hd, hf⟩

/-- An allowed visit has found both windows below their limits. -/
theorem lt_limit_of_allowed (hreg : Regular (past ++ [v]))
    (ha : (outcomeAfter past v).isAllowed = true) (w : LimitType) :
    (count (run past).store.counters (v.key w) v.instant).toNat < v.limit w := by
  obtain ⟨d, hd, hf⟩ := outcomeAfter_follows hreg
  rw [hd] at ha
  exact hf.lt_limit ha w

/-- As many calls of one window are allowed as its limit says, if the counters outlive the window. -/
theorem countP_admitted_le {visits : List Visit} (hreg : Regular visits)
    (hexp : ∀ v ∈ visits, expected v.toCall) (hout : ∀ v ∈ visits, v.limiter.Outlives expected w)
    {p : Call → Bool} (hp : ∀ {c}, p c = true → ∀ e, p e = true ↔ e.Shares c w) {n : Nat}
    (hn : ∀ v ∈ visits, p v.toCall = true → v.limit w ≤ n) :
    (admitted visits).countP p ≤ n := by
  induction visits using List.reverseRecOn with
  | nil => exact Nat.zero_le n
  | append_singleton past v ih =>
    have hin : ∀ e ∈ past, e ∈ past ++ [v] := fun e he => List.mem_append_left _ he
    have hlast : v ∈ past ++ [v] := List.mem_append_right _ (List.mem_singleton_self v)
    have hpast := ih hreg.left (fun e he => hexp e (hin e he)) (fun e he => hout e (hin e he))
      (fun e he => hn e (hin e he))
    rw [countP_admitted_snoc]
    split
    next hboth =>
      obtain ⟨ha, hv⟩ := hboth
      have hlt := lt_limit_of_allowed hreg ha w
      rw [count_eq_tally hreg hexp hout, Call.tally_eq_countP (hp hv)] at hlt
      exact Nat.lt_of_lt_of_le hlt (hn v hlast hv)
    next => exact hpast

/-- The seconds of the first day of 1970 are in the range of the calendar. -/
theorem inRange_of_lt_day {seconds : Nat} (h : seconds < 86400) :
    Calendar.firstSecond ≤ (seconds : Int) ∧ (seconds : Int) ≤ Calendar.lastSecond := by
  unfold Calendar.firstSecond Calendar.lastSecond
  omega

/-- Whole seconds have no nanoseconds to check. -/
theorem no_nanos (seconds : Nat) :
    0 < 1000000000 ∨ 0 < 2000000000 ∧ (seconds : Int) % 60 = 59 := .inl (by decide)

/-- A visit with one request in a minute and two in a day, some seconds after 1970 by the wall clock
and after the start by the clock of the store. -/
def knock (organization : String) (wall store : Nat) (h : wall < 86400) : Visit :=
  { organization
    quota := ⟨1, 2, 0⟩
    time := ⟨wall, 0, inRange_of_lt_day h, no_nanos wall⟩
    instant := ⟨store * 1000000000⟩
    limiter := ⟨.failOpen, .ofMillis 100, 60⟩ }

end Visit

end TenantGateway.RateLimit
