import TenantGateway.Service.Connections

/-!
Connections on a virtual clock: they are held under numbers, and those that are closing end some
time later.
-/

namespace TenantGateway.Simulation

structure ConnectionSession where
  tracker : ConnectionTracker
  /-- The numbers of the connections that are held. -/
  held : List Nat
  /-- When the connections that are closing end, the earliest first. -/
  closing : List Instant
  now : Instant

namespace ConnectionSession

def empty : ConnectionSession := { tracker := .empty, held := [], closing := [], now := .start }

/-- Opens a connection under a number; one that had the number is closed by it. -/
def accept (s : ConnectionSession) (id : Nat) : Bool × ConnectionSession :=
  match s.tracker.accept? with
  | none => (false, s)
  | some tracker =>
    if id ∈ s.held then (true, { s with tracker := tracker.release })
    else (true, { s with tracker, held := id :: s.held })

/-- Closes the connection with a number, if it is held. -/
def close (s : ConnectionSession) (id : Nat) : Bool × ConnectionSession :=
  if id ∈ s.held then
    (true, { s with tracker := s.tracker.release, held := s.held.erase id })
  else (false, s)

def beginShutdown (s : ConnectionSession) : ConnectionSession :=
  { s with tracker := s.tracker.beginShutdown }

/-- Adds an instant to a list in order, behind those that are equal. -/
def insertDue (due : Instant) : List Instant → List Instant
  | [] => [due]
  | d :: rest => if due < d then due :: d :: rest else d :: insertDue due rest

/-- Lets a connection that is held end after some time. -/
def closeLater (s : ConnectionSession) (id : Nat) (after : Duration) : ConnectionSession :=
  if id ∈ s.held then
    { s with held := s.held.erase id, closing := insertDue (s.now + after) s.closing }
  else s

/-- Ends connections that are due before `target`, until none is open. -/
def drainBefore (target : Instant) (tracker : ConnectionTracker) (now : Instant) :
    List Instant → ConnectionTracker × Instant × List Instant
  | [] => (tracker, target, [])
  | due :: rest =>
    if due < target then
      let now := if now < due then due else now
      let tracker := tracker.release
      if (IdleWaiter.subscribe tracker).isDone tracker then (tracker, now, rest)
      else drainBefore target tracker now rest
    else (tracker, target, due :: rest)

/-- Waits until no connection is open, or the grace is over; gives the number left. -/
def waitIdle (s : ConnectionSession) (grace : Duration) : Nat × ConnectionSession :=
  if (IdleWaiter.subscribe s.tracker).isDone s.tracker then (0, s)
  else if grace.nanos = 0 then (s.tracker.active, s)
  else
    let (tracker, now, closing) := drainBefore (s.now + grace) s.tracker s.now s.closing
    (tracker.active, { s with tracker, now, closing })

end ConnectionSession

end TenantGateway.Simulation
