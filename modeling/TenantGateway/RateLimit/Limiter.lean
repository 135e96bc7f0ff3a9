import TenantGateway.Clock
import TenantGateway.Metrics.Measurement
import TenantGateway.RateLimit.Counter
import TenantGateway.RateLimit.Quota
import TenantGateway.RateLimit.Window

/-!
The rate limiter: it asks the counter store about one request, turns the reply into a decision, and
decides by policy what happens when the store gives none in time.
-/

namespace TenantGateway.RateLimit

open Calendar (Timestamp)

/-- What to do with a request when the counter store fails. -/
inductive FailurePolicy where
  | failOpen
  | failClosed
  deriving DecidableEq, Repr, Inhabited

def FailurePolicy.name : FailurePolicy → String
  | .failOpen => "fail_open"
  | .failClosed => "fail_closed"

/-- The window whose limit is reached. -/
inductive LimitType where
  | daily
  | minute
  deriving DecidableEq, Repr

def LimitType.name : LimitType → String
  | .daily => "daily"
  | .minute => "minute"

/-- The window that a store's outcome found full. -/
def CounterOutcome.exceeded : CounterOutcome → Option LimitType
  | .incremented => none
  | .dailyExceeded => some .daily
  | .minuteExceeded => some .minute

/-- Whether a request is within its limits, with the state of both windows. -/
structure Decision where
  allowed : Bool
  exceeded : Option LimitType
  dailyCount : UInt64
  minuteCount : UInt64
  dailyLimit : UInt64
  minuteLimit : UInt64
  dailyRemaining : UInt64
  minuteRemaining : UInt64
  resetDaily : UInt64
  resetMinute : UInt64
  deriving DecidableEq, Repr, Inhabited

namespace Decision

/-- Seconds until the exceeded window ends; zero where none is exceeded. -/
def retryAfter (d : Decision) : UInt64 :=
  match d.exceeded with
  | some .daily => d.resetDaily
  | some .minute => d.resetMinute
  | none => 0

/-- Difference of two counts, zero where it would be negative. -/
def remaining (limit count : UInt64) : UInt64 := if count ≤ limit then limit - count else 0

/-- The decision that a store's reply stands for. A day's counter without a remaining life resets
with the calendar day. -/
def ofReply (q : CounterQuery) (reply : CounterReply) (now : Timestamp) : Decision :=
  { allowed := reply.outcome.exceeded.isNone
    exceeded := reply.outcome.exceeded
    dailyCount := reply.dailyCount
    minuteCount := reply.minuteCount
    dailyLimit := q.dailyLimit
    minuteLimit := q.minuteLimit
    dailyRemaining := remaining q.dailyLimit reply.dailyCount
    minuteRemaining := remaining q.minuteLimit reply.minuteCount
    resetDaily := (reply.dailyTtl.filter (0 < ·)).getD q.dailyTtl
    resetMinute := secondsUntilNextMinute now }

end Decision

inductive LimiterError where
  | unavailable (e : StoreError)
  | timeout (limit : Duration)
  deriving DecidableEq, Repr

def LimiterError.message : LimiterError → String
  | .unavailable e => "rate limiter unavailable: " ++ e.message
  | .timeout limit => "rate limiter did not answer within " ++ limit.text

/-- What becomes of a request at the limiter. -/
inductive Admission where
  | allowed (d : Decision)
  | denied (d : Decision)
  | degraded (reason : String)
  deriving DecidableEq, Repr

/-- Settings of a limiter. -/
structure Limiter where
  policy : FailurePolicy
  timeout : Duration
  minuteTtl : UInt64
  deriving DecidableEq, Repr, Inhabited

namespace Limiter

/-- The question about a request of an organization at a moment. -/
def query (l : Limiter) (organization : String) (quota : Quota) (now : Timestamp) : CounterQuery :=
  { dailyKey := dailyKey organization now
    minuteKey := minuteKey organization now
    dailyLimit := quota.requestsPerDay
    minuteLimit := quota.minuteCeiling
    dailyTtl := secondsUntilMidnight now
    minuteTtl := l.minuteTtl }

/-- How a call ends: a decision or an error, or no end because a deadline is out of range. -/
inductive Outcome where
  | answer (r : Except LimiterError Decision)
  | deadlineOverflow

/-- The end of a call to a store that answers after `delay`, and the time it took. An answer that
arrives at the limit still counts. -/
def settle (l : Limiter) (q : CounterQuery) (now : Timestamp) (delay : Duration)
    (reply : Except StoreFailure CounterReply) : Outcome × Duration :=
  if l.timeout < delay then (.answer (.error (.timeout l.timeout)), l.timeout)
  else
    match reply with
    | .ok reply => (.answer (.ok (.ofReply q reply now)), delay)
    | .error (.error e) => (.answer (.error (.unavailable e)), delay)
    | .error .deadlineOverflow => (.deadlineOverflow, delay)

/-- Applies the policy to the end of a call. -/
def applyPolicy (l : Limiter) (r : Except LimiterError Decision) : Except LimiterError Admission :=
  match r with
  | .ok d => .ok (if d.allowed then .allowed d else .denied d)
  | .error e =>
    match l.policy with
    | .failOpen => .ok (.degraded e.message)
    | .failClosed => .error e

/-- What is reported of an admission. -/
def measurement (r : Except LimiterError Admission) : Measurement :=
  match r with
  | .ok (.allowed _) => .rateLimit "allowed" none
  | .ok (.denied d) => .rateLimit "denied" (d.exceeded.map LimitType.name)
  | .ok (.degraded _) => .rateLimit "degraded" none
  | .error _ => .rateLimit "unavailable" none

end Limiter

end TenantGateway.RateLimit
