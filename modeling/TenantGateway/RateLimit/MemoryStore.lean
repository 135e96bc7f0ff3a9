import TenantGateway.Clock
import TenantGateway.RateLimit.Counter
import Std.Data.ExtTreeMap

/-!
Counters in memory. A counter lives until its deadline, which its first request sets; a lapsed one
counts as absent and is removed only when the store has grown past a threshold.
-/

namespace TenantGateway.RateLimit

/-- A count with a deadline. -/
structure Counter where
  value : UInt64
  expiresAt : Instant
  deriving DecidableEq, Repr, Inhabited

namespace Counter

def isLive (c : Counter) (now : Instant) : Bool := now < c.expiresAt

/-- Whole seconds until the deadline. -/
def remainingSeconds (c : Counter) (now : Instant) : UInt64 :=
  UInt64.ofNat (c.expiresAt.since now).wholeSeconds

end Counter

/-- The counters, whether the store answers at all, and whether a call has broken off inside it. -/
structure MemoryStore where
  counters : Std.ExtTreeMap String Counter
  available : Bool
  poisoned : Bool

namespace MemoryStore

def empty : MemoryStore := { counters := ∅, available := true, poisoned := false }

instance : Inhabited MemoryStore := ⟨empty⟩

/-- A store with more counters than this drops the lapsed ones before it counts. -/
def purgeThreshold : Nat := 10000

/-- The counter of a key, unless it has lapsed. -/
def live (counters : Std.ExtTreeMap String Counter) (key : String) (now : Instant) :
    Option Counter :=
  counters[key]?.filter (·.isLive now)

def purge (counters : Std.ExtTreeMap String Counter) (now : Instant) :
    Std.ExtTreeMap String Counter :=
  if purgeThreshold < counters.size then counters.filter fun _ c => c.isLive now else counters

/-- Counts one more request; a first request sets the deadline. -/
def bump (existing : Option Counter) (now : Instant) (ttl : UInt64) : Option Counter :=
  match existing with
  | some c => some { c with value := c.value + 1 }
  | none => (now.deadline? ttl.toNat).map fun due => { value := 1, expiresAt := due }

/-- The counter's value, if it is live. A broken store holds nothing. -/
def get? (s : MemoryStore) (key : String) (now : Instant) : Option UInt64 :=
  if s.poisoned then none else (live s.counters key now).map (·.value)

/-- The number of counters held, lapsed ones included. -/
def size (s : MemoryStore) : Nat := if s.poisoned then 0 else s.counters.size

/-- Counts a request in both windows, or refuses it when one of them is full; the day is looked at
first, and a refused request changes no count. -/
def check (s : MemoryStore) (q : CounterQuery) (now : Instant) :
    Except StoreFailure CounterReply × MemoryStore :=
  if ¬s.available then
    (.error (.error (.unavailable "memory counter store marked unavailable")), s)
  else if s.poisoned then
    (.error (.error (.unavailable "counter lock poisoned")), s)
  else
    let counters := purge s.counters now
    let daily := live counters q.dailyKey now
    let minute := live counters q.minuteKey now
    let dailyCount := (daily.map (·.value)).getD 0
    let minuteCount := (minute.map (·.value)).getD 0
    let refuse (outcome : CounterOutcome) : Except StoreFailure CounterReply × MemoryStore :=
      (.ok {
        outcome, dailyCount, minuteCount
        dailyTtl := daily.map (·.remainingSeconds now)
        minuteTtl := minute.map (·.remainingSeconds now) }, { s with counters })
    if q.dailyLimit ≤ dailyCount then refuse .dailyExceeded
    else if q.minuteLimit ≤ minuteCount then refuse .minuteExceeded
    else
      match bump daily now q.dailyTtl, bump minute now q.minuteTtl with
      | some daily, some minute =>
        (.ok {
          outcome := .incremented
          dailyCount := daily.value
          minuteCount := minute.value
          dailyTtl := some (daily.remainingSeconds now)
          minuteTtl := some (minute.remainingSeconds now) },
          { s with counters := (counters.insert q.dailyKey daily).insert q.minuteKey minute })
      | _, _ => (.error .deadlineOverflow, { s with counters, poisoned := true })

end MemoryStore

end TenantGateway.RateLimit
