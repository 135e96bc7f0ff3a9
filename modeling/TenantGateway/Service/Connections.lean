import TenantGateway.Clock

/-!
Counting open connections, so that a shutdown can wait for them. A connection that ends is first
taken off the count and then announced; whoever waits looks at the count, and then sleeps until
something is announced.
-/

namespace TenantGateway

/-- The open connections, whether new ones are refused, and how often an end has been announced. -/
structure ConnectionTracker where
  active : Nat
  shuttingDown : Bool
  announcements : Nat
  deriving DecidableEq, Repr

namespace ConnectionTracker

def empty : ConnectionTracker := { active := 0, shuttingDown := false, announcements := 0 }

/-- What is said of a connection that comes too late. -/
def refusal : String := "Server is shutting down"

/-- Counts a new connection, unless a shutdown has begun. -/
def accept? (t : ConnectionTracker) : Option ConnectionTracker :=
  if t.shuttingDown then none else some { t with active := t.active + 1 }

def beginShutdown (t : ConnectionTracker) : ConnectionTracker := { t with shuttingDown := true }

/-- Takes a connection that has ended off the count. -/
def discount (t : ConnectionTracker) : ConnectionTracker := { t with active := t.active - 1 }

/-- Announces the end of a connection. -/
def announce (t : ConnectionTracker) : ConnectionTracker :=
  { t with announcements := t.announcements + 1 }

/-- Both steps of a connection's end. -/
def release (t : ConnectionTracker) : ConnectionTracker := t.discount.announce

end ConnectionTracker

/-- Someone who waits until no connection is open, with the announcements known so far. -/
structure IdleWaiter where
  heard : Nat
  deriving DecidableEq, Repr

namespace IdleWaiter

def subscribe (t : ConnectionTracker) : IdleWaiter := { heard := t.announcements }

/-- Nothing is left to wait for. -/
def isDone (_ : IdleWaiter) (t : ConnectionTracker) : Bool := t.active = 0

/-- Something has been announced since the last look. -/
def isAwake (w : IdleWaiter) (t : ConnectionTracker) : Bool := w.heard < t.announcements

/-- Takes note of what has been announced. -/
def look (_ : IdleWaiter) (t : ConnectionTracker) : IdleWaiter := subscribe t

end IdleWaiter

end TenantGateway
