import TenantGateway.Simulation.Counters
import TenantGateway.Proofs.RateLimit.Keys
import TenantGateway.Proofs.RateLimit.Store

/-! Runs of a limiter over counters in memory: calls for any organizations, one after the other, and
the calls among them that were allowed. A call knows nothing of this history; it is the measure by
which a limiter is judged. -/
namespace TenantGateway

/-- Unix time in nanoseconds. It stands still in a leap second. -/
def Calendar.Timestamp.unixNanos (t : Calendar.Timestamp) : Int :=
  t.seconds * 1000000000 + min t.nanos 999999999

namespace RateLimit
open Calendar (Timestamp)

/-- A call of a limiter: for whom, and when by the wall clock and by the clock of the store. -/
structure Call where
  organization : String
  quota : Quota
  time : Timestamp
  instant : Instant
  deriving DecidableEq

/-- Of two things, one for each window, the one for `w`. -/
def LimitType.pick {α : Type} (w : LimitType) (daily minute : α) : α :=
  match w with
  | .daily => daily
  | .minute => minute

namespace Call

/-- The name of the counter that a call uses in a window. -/
def key (c : Call) : LimitType → String
  | .daily => dailyKey c.organization c.time
  | .minute => minuteKey c.organization c.time

/-- Two calls count together in a window: they are for one organization, and on the same date or in
the same minute. -/
def Shares (c e : Call) : LimitType → Prop
  | .daily => c.organization = e.organization ∧ c.time.date = e.time.date
  | .minute => c.organization = e.organization ∧ epochMinute c.time = epochMinute e.time

instance (c e : Call) (w : LimitType) : Decidable (c.Shares e w) := by
  cases w <;> exact inferInstanceAs (Decidable (_ ∧ _))

/-- Calls have one counter exactly when they share a window. -/
theorem key_eq_iff {c e : Call} {w : LimitType} : c.key w = e.key w ↔ c.Shares e w := by
  cases w with
  | daily => exact dailyKey_inj
  | minute => exact minuteKey_inj

/-- A minute and a day never have one counter. -/
theorem key_ne_of_window_ne {w v : LimitType} (h : w ≠ v) (c e : Call) : c.key w ≠ e.key v := by
  cases w <;> cases v
  · contradiction
  · exact dailyKey_ne_minuteKey _ _ _ _
  · exact (dailyKey_ne_minuteKey _ _ _ _).symm
  · contradiction

/-- The most requests that a call's quota has for a window. -/
def limit (c : Call) : LimitType → Nat
  | .daily => c.quota.requestsPerDay.toNat
  | .minute => min (c.quota.requestsPerMinute.toNat + c.quota.burstAllowance.toNat) (2 ^ 64 - 1)

/-- How many calls of a list count together with `c` in a window. -/
def tally (c : Call) (w : LimitType) (h : List Call) : Nat := h.countP fun e => e.Shares c w

theorem Shares.symm {c e : Call} {w : LimitType} (h : c.Shares e w) : e.Shares c w :=
  key_eq_iff.mp (key_eq_iff.mpr h).symm

theorem Shares.trans {c e f : Call} {w : LimitType} (h : c.Shares e w) (h' : e.Shares f w) :
    c.Shares f w :=
  key_eq_iff.mp ((key_eq_iff.mpr h).trans (key_eq_iff.mpr h'))

/-- One more call counts if it shares the window. -/
theorem tally_snoc (c e : Call) (w : LimitType) (h : List Call) :
    c.tally w (h ++ [e]) = c.tally w h + if e.Shares c w then 1 else 0 := by
  simp only [tally, List.countP_append, List.countP_cons, List.countP_nil, Nat.zero_add,
    decide_eq_true_eq]

/-- Calls that share a window have one tally. -/
theorem tally_eq_of_shares {c e : Call} {w : LimitType} (h : c.Shares e w) (l : List Call) :
    c.tally w l = e.tally w l := by
  apply List.countP_congr
  intro f _
  simp only [decide_eq_true_eq]
  exact ⟨fun hf => hf.trans h, fun hf => hf.trans h.symm⟩

end Call

/-- Calls made one after the other. -/
def Ordered (calls : List Call) : Prop := calls.Pairwise fun c e => c.instant ≤ e.instant

/-- The wall clock and the clock of the store advance in step. -/
def InStep (calls : List Call) : Prop :=
  ∃ offset : Int, ∀ c ∈ calls, c.time.unixNanos = c.instant.nanos + offset

namespace Limiter

/-- A call over counters in memory, which answer at once. -/
def call (l : Limiter) (s : MemoryStore) (c : Call) : Outcome × MemoryStore :=
  let q := l.query c.organization c.quota c.time
  let (reply, s) := s.check q c.instant
  ((l.settle q c.time .zero reply).1, s)

/-- How long a new counter of a window lives. -/
def lifetime (l : Limiter) (c : Call) : LimitType → UInt64
  | .daily => secondsUntilMidnight c.time
  | .minute => l.minuteTtl

/-- The clock of the store can represent the deadlines that a call may set. -/
def InRange (l : Limiter) (c : Call) : Prop :=
  ∀ w, (c.instant.deadline? (l.lifetime c w).toNat).isSome

/-- The end of a call is a decision that allows the request. -/
def Outcome.isAllowed : Outcome → Bool
  | .answer (.ok d) => d.allowed
  | _ => false

/-- What calls leave behind: the store, and the calls that were allowed, in order. -/
structure Trail where
  store : MemoryStore
  admitted : List Call

/-- One more call. -/
def extend (l : Limiter) (t : Trail) (c : Call) : Trail :=
  let (outcome, store) := l.call t.store c
  { store, admitted := if outcome.isAllowed then t.admitted ++ [c] else t.admitted }

/-- The trail of calls on a new store. -/
def run (l : Limiter) (calls : List Call) : Trail := calls.foldl l.extend ⟨.empty, []⟩

theorem run_snoc (l : Limiter) (calls : List Call) (c : Call) :
    l.run (calls ++ [c]) = l.extend (l.run calls) c := by
  simp only [run, List.foldl_append, List.foldl_cons, List.foldl_nil]

end Limiter

/-- A session without queued replies calls the counters in memory, at its own instant. -/
theorem session_check_eq_call (s : Simulation.LimiterSession) (organization : String)
    (quota : Quota) (time : Timestamp) (h : s.counters.queue = []) :
    let r := s.limiter.call s.counters.memory ⟨organization, quota, time, s.now⟩
    (s.check organization quota time).1 = r.1 ∧
      (s.check organization quota time).2.counters = ⟨r.2, []⟩ := by
  obtain ⟨limiter, ⟨memory, queue⟩, now, reports⟩ := s
  cases h
  simp only [Simulation.LimiterSession.check, Simulation.Counters.call, Limiter.call,
    Simulation.LimiterSession.settle]
  split <;> exact ⟨rfl, rfl⟩

end RateLimit
end TenantGateway
