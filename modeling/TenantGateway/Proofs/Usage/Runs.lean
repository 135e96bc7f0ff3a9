import TenantGateway.Usage.Emitter

/-! Runs of the usage emitter: offers of events, turns of its worker and answers of the sink, in any
order. Beside the emitter a run keeps books on what became of every event; the emitter does not see
them. -/
namespace TenantGateway.Usage

/-- What can happen to an emitter. Where the worker does not wait for it, nothing does. -/
inductive Action where
  | record (e : Event)
  | start (now : Instant)
  | receive
  | tick (now : Instant)
  /-- The sink takes the batch that it has been given, or refuses it. -/
  | answer (taken : Bool) (now : Instant)
  | retry (now : Instant)
  | beginClose
  | drain

/-- A turn of the worker that does not depend on the sink. -/
def Action.isTurn : Action → Bool
  | .start _ | .receive | .tick _ | .retry _ | .drain => true
  | _ => false

def Emitter.act (m : Emitter) : Action → Emitter
  | .record e => (m.record e).2
  | .start now => m.start now
  | .receive => m.receive
  | .tick now => m.tick now
  | .answer true now => m.accepted now
  | .answer false now => m.refused now
  | .retry now => m.retry now
  | .beginClose => m.beginClose
  | .drain => m.drain

namespace Worker

/-- The batch that the sink has. -/
def atSink? : Worker → Option (List Event)
  | .publishing batch _ _ _ => some batch
  | _ => none

def isPausing : Worker → Bool
  | .pausing .. => true
  | _ => false

end Worker

/-- How a batch has left the worker. -/
inductive Settlement where
  | published (batch : List Event)
  | abandoned (batch : List Event)
  deriving DecidableEq

namespace Settlement

def batch : Settlement → List Event
  | .published b => b
  | .abandoned b => b

def published? : Settlement → Option (List Event)
  | .published b => some b
  | .abandoned _ => none

def abandoned? : Settlement → Option (List Event)
  | .published _ => none
  | .abandoned b => some b

end Settlement

/-- If no batch is given up, each that is settled is published. -/
theorem filterMap_published?_of_unfailing {settled : List Settlement}
    (h : settled.filterMap Settlement.abandoned? = []) :
    settled.filterMap Settlement.published? = settled.map Settlement.batch := by
  induction settled with
  | nil => rfl
  | cons s settled ih =>
    cases s with
    | published batch => exact congrArg (batch :: ·) (ih h)
    | abandoned batch => cases h

/-- The number of events in some batches. -/
def volume (batches : List (List Event)) : Nat := batches.flatten.length

/-- An emitter with the books of its run. -/
structure Books where
  emitter : Emitter
  /-- How often an event has been offered. -/
  offers : Nat
  /-- The offered events that were accepted, in order. -/
  accepted : List Event
  /-- The batches that are done with, in order. -/
  settled : List Settlement
  /-- The batches that the sink has taken, as it has them. -/
  delivered : List (List SinkRecord)

namespace Books

def open_ (settings : EmitterSettings) : Books := ⟨.ofSettings settings, 0, [], [], []⟩

/-- What the sink's answer settles: a batch that it takes, or one that the worker does not keep for
another attempt. -/
def settlement? (m : Emitter) (taken : Bool) (now : Instant) : Option Settlement :=
  m.worker.atSink?.bind fun batch =>
    if taken then some (.published batch)
    else if (m.refused now).worker.isPausing then none
    else some (.abandoned batch)

def step (b : Books) (a : Action) : Books :=
  match a with
  | .record e =>
    { b with
      emitter := b.emitter.act a
      offers := b.offers + 1
      accepted := if (b.emitter.record e).1 then b.accepted ++ [e] else b.accepted }
  | .answer taken now =>
    { b with
      emitter := b.emitter.act a
      settled := b.settled ++ (settlement? b.emitter taken now).toList
      delivered :=
        if taken then b.delivered ++ (b.emitter.worker.atSink?.map (·.map SinkRecord.ofEvent)).toList
        else b.delivered }
  | _ => { b with emitter := b.emitter.act a }

/-- The books have nothing to say of a turn. -/
theorem step_of_isTurn (b : Books) {a : Action} (h : a.isTurn) :
    b.step a = { b with emitter := b.emitter.act a } := by
  cases a with
  | record e => cases h
  | answer taken now => cases h
  | beginClose => cases h
  | _ => rfl

/-- The books after a run. -/
def run (settings : EmitterSettings) (actions : List Action) : Books :=
  actions.foldl step (open_ settings)

theorem run_snoc (settings : EmitterSettings) (actions : List Action) (a : Action) :
    run settings (actions ++ [a]) = (run settings actions).step a := by
  simp only [run, List.foldl_append, List.foldl_cons, List.foldl_nil]

end Books

end TenantGateway.Usage
