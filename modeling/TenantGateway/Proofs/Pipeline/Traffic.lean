import TenantGateway.Simulation.Gateway

/-! Runs of a gateway with any number of requests under way: each request takes its steps when it
likes, and what surrounds the gateway changes between any two of them. Beside the gateway a run notes
the calls to backends and the usage events that were offered. -/
namespace TenantGateway.Simulation
open Net (Request)

/-- What surrounds a gateway and is not its own doing. -/
structure Surroundings where
  tenants : TenantSession
  backends : List Backend
  wall : Calendar.Timestamp
  storeAvailable : Bool
  sink : SlowSink

def GatewaySession.within (s : GatewaySession) (o : Surroundings) : GatewaySession :=
  { s with
    tenants := o.tenants
    backends := o.backends
    wall := o.wall
    limits := { s.limits with counters := s.limits.counters.setAvailable o.storeAvailable }
    usage := { s.usage with sink := o.sink } }

/-- One step of a request, which is named by its place among those that wait for it, or of the world
around. -/
inductive Move where
  | arrive (r : Request)
  | count (place : Nat)
  | settle (place : Nat)
  | elapse (t : Instant)
  | surround (o : Surroundings)

structure Traffic where
  gateway : GatewaySession
  /-- The requests that are to be counted. -/
  identified : List Identified
  /-- The requests that wait for their backends. -/
  pending : List Pending
  /-- The calls to backends, in order. -/
  sent : List Pending
  /-- The usage events that have been offered, in order. -/
  billed : List Usage.Event

namespace Traffic

def open_ (s : GatewaySession) : Traffic := ⟨s, [], [], [], []⟩

def arrive (b : Traffic) (r : Request) : Traffic :=
  match b.gateway.identify r with
  | (.inl i, gateway) => { b with gateway, identified := b.identified ++ [i] }
  | (.inr _, gateway) => { b with gateway }

def count (b : Traffic) (place : Nat) : Traffic :=
  match b.identified[place]? with
  | none => b
  | some i =>
    let identified := b.identified.eraseIdx place
    match b.gateway.count i with
    | (.inl p, gateway) =>
      { b with gateway, identified, pending := b.pending ++ [p], sent := b.sent ++ [p] }
    | (.inr _, gateway) => { b with gateway, identified }

def settle (b : Traffic) (place : Nat) : Traffic :=
  match b.pending[place]? with
  | none => b
  | some p =>
    { b with
      gateway := (b.gateway.settle p).2
      pending := b.pending.eraseIdx place
      billed := b.billed ++ (b.gateway.event? p).toList }

def step (b : Traffic) : Move → Traffic
  | .arrive r => b.arrive r
  | .count place => b.count place
  | .settle place => b.settle place
  | .elapse t => { b with gateway := b.gateway.runTo t }
  | .surround o => { b with gateway := b.gateway.within o }

/-- What a gateway has come to after some moves. -/
def run (s : GatewaySession) (moves : List Move) : Traffic := moves.foldl step (open_ s)

theorem run_snoc (s : GatewaySession) (moves : List Move) (m : Move) :
    run s (moves ++ [m]) = (run s moves).step m := by
  simp only [run, List.foldl_append, List.foldl_cons, List.foldl_nil]

end Traffic

end TenantGateway.Simulation
