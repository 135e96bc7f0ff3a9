import TenantGateway.Tenant.Refresh

/-!
Refreshing again and again. The first cycle begins at once, the others at the ticks of a timer; a
request to stop is seen between cycles only.

Each function is one step between two waits, so that a run is any interleaving of these steps with
the work of others.
-/

namespace TenantGateway.Tenant

/-- Where the loop is. -/
inductive LoopPhase where
  /-- Before its first turn. -/
  | fresh
  /-- Between cycles, until a tick. -/
  | waiting (tick : Instant)
  /-- In a cycle; the next tick is set. -/
  | fetching (tick : Instant)
  /-- It has stopped. -/
  | ended
  /-- It broke off and does nothing more. -/
  | broken
  deriving DecidableEq, Repr

structure RefreshLoop where
  refresher : Refresher
  period : Duration
  phase : LoopPhase
  /-- A request to stop has been made. -/
  stopping : Bool
  deriving DecidableEq, Repr

namespace RefreshLoop

def ofRefresher (refresher : Refresher) (period : Duration) : RefreshLoop :=
  { refresher, period, phase := .fresh, stopping := false }

/-- Stops between cycles. -/
def stop (l : RefreshLoop) : RefreshLoop :=
  { l with phase := .ended, refresher := { l.refresher with state := .stopped } }

/-- The first turn; a timer needs a period. -/
def start (l : RefreshLoop) (now : Instant) : RefreshLoop :=
  match l.phase with
  | .fresh =>
    if l.period.nanos = 0 then { l with phase := .broken }
    else if l.stopping then l.stop
    else { l with phase := .fetching (now + l.period), refresher := l.refresher.beginCycle }
  | _ => l

/-- A tick begins a cycle, unless the loop is to stop. -/
def tick (l : RefreshLoop) (now : Instant) : RefreshLoop :=
  match l.phase with
  | .waiting due =>
    if l.stopping then l.stop
    else if due ≤ now then
      { l with
        phase := .fetching (Instant.nextTick l.period due now)
        refresher := l.refresher.beginCycle }
    else l
  | _ => l

/-- The fetch of a cycle has ended. -/
def settle (l : RefreshLoop) (c : Cache) (now : Instant) (answer : Except RefreshError Snapshot) :
    RefreshLoop × Cache × List Measurement :=
  match l.phase with
  | .fetching tick =>
    let (outcome, refresher, c) := l.refresher.complete c now answer
    let phase : LoopPhase := if outcome = .deadlineOverflow then .broken else .waiting tick
    ({ l with refresher, phase }, c, refresher.measurements outcome)
  | _ => (l, c, [])

/-- Asks the loop to stop. -/
def requestStop (l : RefreshLoop) : RefreshLoop := { l with stopping := true }

def hasEnded (l : RefreshLoop) : Bool := l.phase = .ended || l.phase = .broken

/-- Stops the loop where it is; a cycle under way leaves nothing behind. -/
def abort (l : RefreshLoop) : RefreshLoop := if l.hasEnded then l else l.stop

end RefreshLoop

end TenantGateway.Tenant
