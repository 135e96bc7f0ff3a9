/-!
Counting requests: what a counter store is asked, what it answers, and how it can fail.
-/

namespace TenantGateway.RateLimit

/-- A question to a counter store: count one request in both windows, unless a limit is reached.
Lifetimes are in seconds and count from a counter's first request. -/
structure CounterQuery where
  dailyKey : String
  minuteKey : String
  dailyLimit : UInt64
  minuteLimit : UInt64
  dailyTtl : UInt64
  minuteTtl : UInt64
  deriving DecidableEq, Repr, Inhabited

inductive CounterOutcome where
  | incremented
  | dailyExceeded
  | minuteExceeded
  deriving DecidableEq, Repr, Inhabited

/-- The outcome, the counts after it, and the whole seconds that each counter has left, where one
exists. -/
structure CounterReply where
  outcome : CounterOutcome
  dailyCount : UInt64
  minuteCount : UInt64
  dailyTtl : Option UInt64
  minuteTtl : Option UInt64
  deriving DecidableEq, Repr, Inhabited

inductive StoreError where
  /-- The connection to a remote store failed, or its reply was no list of integers. -/
  | remote (text : String)
  /-- The store replied with integers that have no meaning. -/
  | unexpectedReply (text : String)
  | unavailable (text : String)
  deriving DecidableEq, Repr

def StoreError.message : StoreError → String
  | .remote text => "redis error: " ++ text
  | .unexpectedReply text => "unexpected counter store reply: " ++ text
  | .unavailable text => "counter store unavailable: " ++ text

/-- How a call to a store ends without a reply: in an error, or because a counter's deadline lies
outside the clock's range. -/
inductive StoreFailure where
  | error (e : StoreError)
  | deadlineOverflow
  deriving DecidableEq, Repr

end TenantGateway.RateLimit
