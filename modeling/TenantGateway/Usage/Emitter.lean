import TenantGateway.Metrics.Measurement
import TenantGateway.Usage.Sink

/-!
The usage emitter: requests put events into a bounded buffer without waiting, and a worker takes
them out, publishes them in batches, and tries a refused batch again before it gives it up.

The worker is described by what it waits for. Each function below is one step between two waits, so
that a run is any interleaving of records, worker steps and a close.
-/

namespace TenantGateway.Usage

structure EmitterSettings where
  topic : String
  capacity : Nat
  batchSize : Nat
  interval : Duration
  retries : Nat
  deriving DecidableEq, Repr, Inhabited

namespace EmitterSettings

/-- The most events that the buffer holds. -/
def room (s : EmitterSettings) : Nat := max s.capacity 1

/-- The number of events that makes a batch full. -/
def fullBatch (s : EmitterSettings) : Nat := max s.batchSize 1

/-- The most events for which room can be asked at once: an event takes 144 bytes, and there are fewer
than 2 ^ 63 bytes to ask for. -/
def largestBatch : Nat := 9223372036854775807 / 144

/-- Whether a worker can run: its flush timer has a period, and room can be asked for a full batch. -/
def Runnable (s : EmitterSettings) : Prop := 0 < s.interval.nanos ∧ s.fullBatch ≤ largestBatch

instance : DecidablePred Runnable := fun s =>
  inferInstanceAs (Decidable (0 < s.interval.nanos ∧ s.fullBatch ≤ largestBatch))

end EmitterSettings

structure EmitterStats where
  enqueued : Nat
  dropped : Nat
  published : Nat
  failed : Nat
  batches : Nat
  deriving DecidableEq, Repr, Inhabited

def EmitterStats.zero : EmitterStats := ⟨0, 0, 0, 0, 0⟩

/-- How the worker goes on once a batch is settled. -/
inductive Continuation where
  /-- A full batch: the flush timer starts anew. -/
  | resetTimer
  /-- A batch flushed by the timer, which runs on. -/
  | keepTimer
  /-- The last batch. -/
  | exit
  deriving DecidableEq, Repr

/-- What the worker waits for. -/
inductive Worker where
  /-- Its first turn. -/
  | fresh
  /-- An event or the flush timer. -/
  | collecting (batch : List Event) (timer : Instant)
  /-- The sink, which has the batch; `attempt` counts the retries so far. -/
  | publishing (batch : List Event) (attempt : Nat) (timer : Instant) (next : Continuation)
  /-- The end of a pause before the batch is published again. -/
  | pausing (batch : List Event) (attempt : Nat) (wake : Instant) (timer : Instant)
      (next : Continuation)
  /-- Nothing: it has ended after the last event. -/
  | finished
  /-- Nothing: it broke off, at its start or because a close ran out of time. -/
  | gone
  deriving DecidableEq, Inhabited

namespace Worker

/-- Whether the worker has ended. -/
def ended : Worker → Bool
  | .finished | .gone => true
  | _ => false

/-- The events that the worker holds. -/
def batch : Worker → List Event
  | .collecting b _ => b
  | .publishing b _ _ _ => b
  | .pausing b _ _ _ _ => b
  | _ => []

end Worker

/-- An emitter: the buffer is open until the first close. -/
structure Emitter where
  settings : EmitterSettings
  isOpen : Bool
  buffer : List Event
  worker : Worker
  stats : EmitterStats
  /-- What has been reported, the latest first. -/
  reports : List Measurement

namespace Emitter

def ofSettings (settings : EmitterSettings) : Emitter :=
  { settings, isOpen := true, buffer := [], worker := .fresh, stats := .zero, reports := [] }

def report (m : Emitter) (result : String) (count : Nat) : List Measurement :=
  .usageEvents result (UInt64.ofNat count) :: m.reports

def drop (m : Emitter) : Emitter :=
  { m with
    stats := { m.stats with dropped := m.stats.dropped + 1 }
    reports := m.report "dropped" 1 }

def enqueue (m : Emitter) (e : Event) : Emitter :=
  { m with
    buffer := m.buffer ++ [e]
    stats := { m.stats with enqueued := m.stats.enqueued + 1 }
    reports := m.report "enqueued" 1 }

/-- Offers an event; it is dropped when the emitter is closed, the worker has ended or the buffer is
full. -/
def record (m : Emitter) (e : Event) : Bool × Emitter :=
  if m.isOpen ∧ ¬m.worker.ended ∧ m.buffer.length < m.settings.room then (true, m.enqueue e)
  else (false, m.drop)

/-- The pause after the first refusal; later pauses are multiples of it. -/
def pauseUnit : Duration := Duration.ofMillis 100

/-- The worker's first turn makes room for a full batch and starts the flush timer; where it cannot do
both, it breaks off, and what is buffered is lost. -/
def start (m : Emitter) (now : Instant) : Emitter :=
  match m.worker with
  | .fresh =>
    if m.settings.Runnable then { m with worker := .collecting [] (now + m.settings.interval) }
    else { m with worker := .gone, buffer := [] }
  | _ => m

/-- Takes the next event out of the buffer; a full batch goes to the sink. -/
def receive (m : Emitter) : Emitter :=
  match m.worker, m.buffer with
  | .collecting batch timer, e :: rest =>
    let batch := batch ++ [e]
    if m.settings.fullBatch ≤ batch.length then
      { m with buffer := rest, worker := .publishing batch 0 timer .resetTimer }
    else { m with buffer := rest, worker := .collecting batch timer }
  | _, _ => m

/-- Nothing more will come: the last batch goes to the sink, or the worker ends. -/
def drain (m : Emitter) : Emitter :=
  match m.worker, m.buffer with
  | .collecting batch timer, [] =>
    if m.isOpen then m
    else if batch.isEmpty then { m with worker := .finished }
    else { m with worker := .publishing batch 0 timer .exit }
  | _, _ => m

/-- The flush timer has fired: events that have been collected go to the sink. -/
def tick (m : Emitter) (now : Instant) : Emitter :=
  match m.worker with
  | .collecting batch timer =>
    if timer ≤ now then
      let next := Instant.nextTick m.settings.interval timer now
      if batch.isEmpty then { m with worker := .collecting [] next }
      else { m with worker := .publishing batch 0 next .keepTimer }
    else m
  | _ => m

/-- Where the worker goes from a settled batch. -/
def resume (m : Emitter) (timer : Instant) (next : Continuation) (now : Instant) : Worker :=
  match next with
  | .resetTimer => .collecting [] (now + m.settings.interval)
  | .keepTimer => .collecting [] timer
  | .exit => .finished

/-- The sink has taken the batch. -/
def accepted (m : Emitter) (now : Instant) : Emitter :=
  match m.worker with
  | .publishing batch _ timer next =>
    { m with
      worker := m.resume timer next now
      stats := { m.stats with
        published := m.stats.published + batch.length, batches := m.stats.batches + 1 }
      reports := .usageBatch :: m.report "published" batch.length }
  | _ => m

/-- The sink has refused the batch: a longer pause each time, until the retries are used up. -/
def refused (m : Emitter) (now : Instant) : Emitter :=
  match m.worker with
  | .publishing batch attempt timer next =>
    if attempt < m.settings.retries then
      let pause : Duration := ⟨pauseUnit.nanos * (attempt + 1)⟩
      { m with worker := .pausing batch (attempt + 1) (now + pause) timer next }
    else
      { m with
        worker := m.resume timer next now
        stats := { m.stats with failed := m.stats.failed + batch.length }
        reports := m.report "failed" batch.length }
  | _ => m

/-- A pause is over: the same batch goes to the sink again. -/
def retry (m : Emitter) (now : Instant) : Emitter :=
  match m.worker with
  | .pausing batch attempt wake timer next =>
    if wake ≤ now then { m with worker := .publishing batch attempt timer next } else m
  | _ => m

/-- Closes the buffer to new events. -/
def beginClose (m : Emitter) : Emitter := { m with isOpen := false }

/-- Stops the worker where it is; what it holds and what is buffered is lost. -/
def abort (m : Emitter) : Emitter :=
  if m.worker.ended then m else { m with worker := .gone, buffer := [] }

end Emitter

end TenantGateway.Usage
