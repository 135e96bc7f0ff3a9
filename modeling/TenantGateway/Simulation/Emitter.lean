import TenantGateway.Usage.Emitter

/-!
An emitter on a virtual clock, over a sink that can be slow or fail. The clock stands still while
anything can happen, and then jumps to the next thing that is due.
-/

namespace TenantGateway.Simulation

open Usage

/-- A finished publication as it is logged. -/
structure Publication where
  start : Instant
  taken : Bool
  keys : List String

/-- A sink in memory behind delays; a sink that only writes a log keeps nothing. -/
structure SlowSink where
  memory : MemorySink
  publishDelay : Duration
  flushDelay : Duration
  flushFault : Option SinkError
  keeps : Bool
  log : List Publication

namespace SlowSink

def empty : SlowSink :=
  { memory := .empty, publishDelay := .zero, flushDelay := .zero, flushFault := none, keeps := true
    log := [] }

/-- Ends a publication: whether it was taken. -/
def publish (s : SlowSink) (start : Instant) (batch : List Event) : Bool × SlowSink :=
  if s.keeps then
    let records := batch.map SinkRecord.ofEvent
    let (taken, memory) := s.memory.publish records
    (taken, { s with memory, log := s.log ++ [{ start, taken, keys := records.map (·.key) }] })
  else (true, s)

/-- Waits for deliveries: the time it takes and how it ends. A flush that would outlast its limit
fails at once. -/
def flush (s : SlowSink) (limit : Duration) : Duration × Except SinkError Unit × SlowSink :=
  if ¬s.keeps then (.zero, .ok (), s)
  else if limit < s.flushDelay then (.zero, .error (.flushTimeout limit), s)
  else
    match s.flushFault with
    | some e => (s.flushDelay, .error e, s)
    | none => (s.flushDelay, .ok (), { s with memory := s.memory.flush })

end SlowSink

structure EmitterSession where
  emitter : Emitter
  sink : SlowSink
  now : Instant
  /-- Start and end of the publication under way. -/
  inFlight : Option (Instant × Instant)

namespace EmitterSession

def ofSettings (settings : EmitterSettings) (keeps : Bool) : EmitterSession :=
  { emitter := .ofSettings settings, sink := { SlowSink.empty with keeps }, now := .start
    inFlight := none }

/-- Ends the publication under way. -/
def settle (s : EmitterSession) (start : Instant) : EmitterSession :=
  let (taken, sink) := s.sink.publish start s.emitter.worker.batch
  { s with
    sink
    emitter := if taken then s.emitter.accepted s.now else s.emitter.refused s.now
    inFlight := none }

/-- What the worker can do at this instant, if anything. -/
def step? (s : EmitterSession) : Option EmitterSession :=
  match s.emitter.worker with
  | .fresh => some { s with emitter := s.emitter.start s.now }
  | .collecting _ timer =>
    if ¬s.emitter.buffer.isEmpty then some { s with emitter := s.emitter.receive }
    else if ¬s.emitter.isOpen then some { s with emitter := s.emitter.drain }
    else if timer ≤ s.now then some { s with emitter := s.emitter.tick s.now }
    else none
  | .publishing .. =>
    match s.inFlight with
    | none => some { s with inFlight := some (s.now, s.now + s.sink.publishDelay) }
    | some (start, due) => if due ≤ s.now then some (s.settle start) else none
  | .pausing _ _ wake _ _ =>
    if wake ≤ s.now then some { s with emitter := s.emitter.retry s.now } else none
  | .finished | .gone => none

/-- The instant at which the worker can go on. -/
def due? (s : EmitterSession) : Option Instant :=
  match s.emitter.worker with
  | .collecting _ timer => some timer
  | .publishing .. => s.inFlight.map (·.2)
  | .pausing _ _ wake _ _ => some wake
  | _ => none

/-- Lets the worker run while it has something due before `target`, or until it ends. -/
def runBefore (target : Instant) : Nat → EmitterSession → EmitterSession
  | 0, s => s
  | fuel + 1, s =>
    match s.step? with
    | some s => runBefore target fuel s
    | none =>
      match s.due? with
      | some due => if due < target then runBefore target fuel { s with now := due } else s
      | none => s

/-- Steps enough for everything that can happen before `target`: timers lie a millisecond apart or
more, and an event takes part in a bounded number of steps per attempt. -/
def fuel (s : EmitterSession) (target : Instant) : Nat :=
  let events := s.emitter.buffer.length + s.emitter.worker.batch.length
  let attempts := min s.emitter.settings.retries 1000 + 2
  4 * (target.since s.now).wholeMillis + 8 * (events + 2) * attempts + 64

/-- Lets the worker do all that it can do at this instant. -/
def poll (s : EmitterSession) : EmitterSession := runBefore s.now (s.fuel s.now) s

/-- Lets time pass. Nothing runs in no time. -/
def wait (s : EmitterSession) (d : Duration) : EmitterSession :=
  if d.nanos = 0 then s
  else
    let target := s.now + d
    { runBefore target (s.fuel target) s with now := target }

def record (s : EmitterSession) (e : Event) : Bool × EmitterSession :=
  let (taken, emitter) := s.emitter.record e
  (taken, { s with emitter })

/-- Offers events one after the other; the number accepted. -/
def recordAll (s : EmitterSession) : List Event → Nat × EmitterSession
  | [] => (0, s)
  | e :: rest =>
    let (taken, s) := s.record e
    let (count, s) := recordAll s rest
    (if taken then count + 1 else count, s)

/-- Ends a close that began at an instant: the worker may use the whole limit, and the sink's flush
what is left of it. -/
def finishClose (s : EmitterSession) (began : Instant) (limit : Duration) :
    Except SinkError Unit × EmitterSession :=
  let target := began + limit
  let s := if limit.nanos = 0 then s else runBefore target (s.fuel target) s
  if ¬s.emitter.worker.ended then
    (.error (.flushTimeout limit),
      { s with emitter := s.emitter.abort, now := target, inFlight := none })
  else
    let (took, result, sink) := s.sink.flush (limit.sub (s.now.since began))
    (result, { s with sink, now := s.now + took })

/-- Closes the emitter; a limit of no time ends it at once. -/
def close (s : EmitterSession) (limit : Duration) : Except SinkError Unit × EmitterSession :=
  if ¬s.emitter.isOpen then (.ok (), s)
  else { s with emitter := s.emitter.beginClose }.finishClose s.now limit

/-- Closes the emitter where a limit of no time still leaves the worker a turn. -/
def closeAfterTurn (s : EmitterSession) (limit : Duration) :
    Except SinkError Unit × EmitterSession :=
  if ¬s.emitter.isOpen then (.ok (), s)
  else { s with emitter := s.emitter.beginClose }.poll.finishClose s.now limit

end EmitterSession

end TenantGateway.Simulation
