import TenantGateway.RateLimit.MemoryStore
import TenantGateway.RateLimit.Limiter
import TenantGateway.Metrics.Measurement
import TenantGateway.Pipeline.Refusal

/-!
A limiter on a virtual clock, over counters in memory in front of which replies can be queued. A
queued reply is used up by one call, also by a call that gives up before it arrives.
-/

namespace TenantGateway.Simulation

open RateLimit
open Calendar (Timestamp)

/-- A reply that the next call gets instead of the memory's. -/
structure QueuedReply where
  delay : Duration
  reply : Except StoreFailure CounterReply

/-- Counters in memory behind queued replies. -/
structure Counters where
  memory : MemoryStore
  queue : List QueuedReply

/-- The key with what follows its last colon replaced. -/
def pinKey (key : String) : String :=
  String.ofList ((key.toList.reverse.dropWhile (· != ':')).reverse) ++ "pinned"

/-- The windows that counters are kept for. -/
inductive Windows where
  /-- The day and the minute. -/
  | calendar
  /-- Windows that stand still: both have a fixed name, and the day's counter a fixed remaining
  life. -/
  | pinned (dailyTtl : UInt64)
  deriving DecidableEq, Repr, Inhabited

namespace Windows

/-- What the counters are asked. -/
def query (w : Windows) (q : CounterQuery) : CounterQuery :=
  match w with
  | .calendar => q
  | .pinned _ =>
    { q with dailyKey := pinKey q.dailyKey, minuteKey := pinKey q.minuteKey, dailyTtl := 86400 }

/-- What their reply counts as. -/
def reply (w : Windows) (r : Except StoreFailure CounterReply) : Except StoreFailure CounterReply :=
  match w with
  | .calendar => r
  | .pinned dailyTtl => r.map fun r => { r with dailyTtl := some dailyTtl }

end Windows

namespace Counters

def empty : Counters := { memory := .empty, queue := [] }

def setAvailable (c : Counters) (value : Bool) : Counters :=
  { c with memory := { c.memory with available := value } }

def enqueue (c : Counters) (r : QueuedReply) : Counters := { c with queue := c.queue ++ [r] }

/-- One call: how long the answer takes, the answer, and the counters after it. -/
def call (c : Counters) (w : Windows) (q : CounterQuery) (now : Instant) :
    Duration × Except StoreFailure CounterReply × Counters :=
  match c.queue with
  | r :: rest => (r.delay, r.reply, { c with queue := rest })
  | [] =>
    let (reply, memory) := c.memory.check (w.query q) now
    (.zero, w.reply reply, { c with memory })

end Counters

/-- A limiter with its counters, the clock and what it has reported, the latest first. -/
structure LimiterSession where
  limiter : Limiter
  counters : Counters
  now : Instant
  reports : List Measurement

namespace LimiterSession

def ofLimiter (limiter : Limiter) : LimiterSession :=
  { limiter, counters := .empty, now := .start, reports := [] }

def wait (s : LimiterSession) (d : Duration) : LimiterSession := { s with now := s.now + d }

def report (s : LimiterSession) (m : Measurement) : LimiterSession :=
  { s with reports := m :: s.reports }

/-- Ends a call: the clock moves by the time it took, which is reported unless it broke off. -/
def settle (s : LimiterSession) (q : CounterQuery) (at_ : Timestamp)
    (answer : Duration × Except StoreFailure CounterReply × Counters) :
    Limiter.Outcome × LimiterSession :=
  let (delay, reply, counters) := answer
  let (outcome, took) := s.limiter.settle q at_ delay reply
  let s := { s with counters, now := s.now + took }
  match outcome with
  | .answer _ => (outcome, s.report (.rateLimitDuration (took.nanos.toFloat / 1e9)))
  | .deadlineOverflow => (outcome, s)

/-- Counts a request at a moment of the calendar. -/
def check (s : LimiterSession) (organization : String) (quota : Quota) (at_ : Timestamp) :
    Limiter.Outcome × LimiterSession :=
  let q := s.limiter.query organization quota at_
  s.settle q at_ (s.counters.call .calendar q s.now)

/-- Several requests of one organization at one moment: the number allowed, the last outcome. -/
def checkMany (s : LimiterSession) (organization : String) (quota : Quota) (at_ : Timestamp) :
    Nat → Nat × Option Limiter.Outcome × LimiterSession
  | 0 => (0, none, s)
  | n + 1 =>
    let (allowed, _, s) := s.checkMany organization quota at_ n
    let (outcome, s) := s.check organization quota at_
    match outcome with
    | .answer (.ok d) => ((if d.allowed then allowed + 1 else allowed), some outcome, s)
    | _ => (allowed, some outcome, s)

/-- One request of each of the first `n` organizations of a numbered family; the number allowed. -/
def checkFamily (s : LimiterSession) (family : String) (quota : Quota) (at_ : Timestamp) :
    Nat → Nat × LimiterSession
  | 0 => (0, s)
  | n + 1 =>
    let (allowed, s) := s.checkFamily family quota at_ n
    let (outcome, s) := s.check (family ++ toString n) quota at_
    match outcome with
    | .answer (.ok d) => ((if d.allowed then allowed + 1 else allowed), s)
    | _ => (allowed, s)

/-- Admits a request by the policy. `none` when the call broke off. -/
def admissionIn (s : LimiterSession) (w : Windows) (organization : String) (quota : Quota)
    (at_ : Timestamp) : Option (Except LimiterError Admission) × LimiterSession :=
  let q := s.limiter.query organization quota at_
  let (outcome, s) := s.settle q at_ (s.counters.call w q s.now)
  match outcome with
  | .answer r =>
    let admission := s.limiter.applyPolicy r
    (some admission, s.report (Limiter.measurement admission))
  | .deadlineOverflow => (none, s)

/-- Admits a request in pinned windows. -/
def admission (s : LimiterSession) (organization : String) (quota : Quota) (at_ : Timestamp)
    (dailyTtl : UInt64) : Option (Except LimiterError Admission) × LimiterSession :=
  s.admissionIn (.pinned dailyTtl) organization quota at_

end LimiterSession

end TenantGateway.Simulation
