import TenantGateway.Proofs.Pipeline.Passage
import TenantGateway.Proofs.RateLimit.Lifetime
import TenantGateway.Proofs.Service.Tracking
import TenantGateway.Proofs.Tenant.Loop
import TenantGateway.Proofs.Usage.Closing

/-! A whole gateway, from its start to its end: connections and the requests that come over them, the
refresh loop, the usage emitter, and the shutdown of all of these. What is done next, and what the
directory, the counter store, the backends and the sink answer, comes in any order. Beside the gateway
a run notes what has become of the requests and of their usage events. -/
namespace TenantGateway
open Calendar (Timestamp)
open Pipeline (Advance Arrival BackendAnswer Handled Note Progress)
open RateLimit (CounterReply StoreFailure)
open Tenant (Cache DirectoryError RefreshError RefreshLoop Snapshot)

/-- The emitter of a gateway with some settings. -/
def Settings.emitter (s : Settings) : Usage.EmitterSettings :=
  { topic := s.usage.topic
    capacity := s.usage.bufferCapacity.toNat
    batchSize := s.usage.batchSize.toNat
    interval := .ofMillis s.usage.flushIntervalMillis.toNat
    retries := s.usage.publishRetries.toNat }

/-- The refresh loop of a gateway with some settings. -/
def Settings.refreshLoop (s : Settings) : RefreshLoop :=
  .ofRefresher
    (.ofLimits s.cache.entryTtlSeconds.toNat (.ofMillis s.cache.fetchTimeoutMillis.toNat))
    (.ofSeconds s.cache.refreshSeconds.toNat)

/-- The time that each part of a shutdown may take. -/
def Settings.grace (s : Settings) : Duration := .ofSeconds s.timeout.shutdownSeconds.toNat

/-- What an emitter does with an event that it is offered. -/
inductive Reception where
  | taken
  | full
  /-- The emitter is closed. -/
  | closed
  /-- Nobody would take the event out of the buffer. -/
  | deserted
  deriving DecidableEq, Repr

def Usage.Emitter.reception (m : Usage.Emitter) : Reception :=
  if m.isOpen = false then .closed
  else if m.worker.ended then .deserted
  else if m.buffer.length < m.settings.room then .taken
  else .full

/-- The emitter says of an event whether it has been taken. -/
theorem Usage.Emitter.fst_record (m : Usage.Emitter) (e : Usage.Event) :
    (m.record e).1 = decide (m.reception = .taken) := by
  rw [record, reception]
  cases m.isOpen with
  | false => rfl
  | true =>
    cases m.worker.ended with
    | true => rfl
    | false =>
      by_cases hroom : m.buffer.length < m.settings.room
      · simp [hroom]
      · simp [hroom]

structure Offer where
  event : Usage.Event
  reception : Reception

/-- A request on its way. -/
structure Passage where
  connection : Nat
  arrival : Arrival
  progress : Progress

/-- How far a gateway is from its end. -/
inductive ServePhase where
  | accepting
  /-- It has been told to shut down. -/
  | leaving
  /-- It waits for the connections to end. -/
  | draining
  /-- The wait has ended with some connections left, and the refresh loop is to stop. -/
  | stopping (left : Nat)
  /-- The emitter is being closed. -/
  | closing (left : Nat)
  deriving DecidableEq, Repr

/-- The connections left when the wait for them has ended. -/
def ServePhase.left? : ServePhase → Option Nat
  | .stopping left | .closing left => some left
  | _ => none

structure Gateway where
  phase : ServePhase
  tracking : Tracking
  passages : List Passage
  cache : Cache
  loop : RefreshLoop
  usage : Usage.Closing
  /-- What all parts but the emitter have reported, in order. -/
  reports : List Measurement
  notes : List Note
  /-- The requests that were admitted and have been handled to their ends, in order. -/
  handled : List Handled
  /-- The events that the emitter has been offered, in order. -/
  offers : List Offer

namespace Gateway

/-- Requests and connections are told by their places. What cannot be changes nothing. -/
inductive Event where
  | connect
  | arrive (connection : Nat) (a : Arrival)
  | inquire (place : Nat) (now : Instant) (seconds : Float)
  | learn (place : Nat) (answer : Except DirectoryError (Option Tenant.Record)) (now : Instant)
      (seconds : Float)
  | count (place : Nat) (time : Timestamp) (delay : Duration)
      (reply : Except StoreFailure CounterReply) (seconds : Float)
  | reply (place : Nat) (answer : BackendAnswer) (millis : UInt64) (time : Timestamp)
      (took seconds : Float)
  | giveUp (place : Nat)
  /-- The task of a connection ends, once nothing more is done for its requests. -/
  | hangUp (connection : Nat)
  | announce (connection : Nat)
  | turnLoop (now : Instant)
  | refresh (now : Instant) (answer : Except RefreshError Snapshot)
  /-- A step of the emitter's worker, of the sink, or of the close. -/
  | emitter (e : Usage.Closing.Event)
  | shutDown
  | subscribe
  | drain (turn : WaitTurn)
  /-- The refresh loop has ended or is stopped where it is. -/
  | close

/-- No offer and no close, which are the gateway's to make. -/
def isInner : Usage.Closing.Event → Bool
  | .offer _ | .close _ => false
  | _ => true

def start (s : Settings) : Gateway :=
  { phase := .accepting, tracking := .empty, passages := [], cache := .empty
    loop := s.refreshLoop, usage := .open_ s.emitter, reports := [], notes := [], handled := []
    offers := [] }

/-- A request takes a step. -/
def advance (g : Gateway) (place : Nat) (p : Passage) (x : Advance) : Gateway :=
  { g with
    passages := g.passages.set place { p with progress := x.progress }
    reports := g.reports ++ x.reports
    notes := g.notes ++ x.notes }

def offer (g : Gateway) (e : Usage.Event) : Gateway :=
  { g with
    usage := g.usage.step (.offer e)
    offers := g.offers ++ [⟨e, g.usage.books.emitter.reception⟩] }

/-- Meters a request that has been handled to its end. -/
def meter (g : Gateway) (h : Handled) : Gateway :=
  match h.event? with
  | some e => { g with handled := g.handled ++ [h] }.offer e
  | none => { g with handled := g.handled ++ [h] }

def step (s : Settings) (g : Gateway) : Event → Gateway
  | .connect => { g with tracking := g.tracking.step .accept }
  | .arrive connection a =>
    if g.tracking.guards[connection]? = some .held then
      { g with passages := g.passages ++ [⟨connection, a, .arrived⟩] }
    else g
  | .inquire place now seconds =>
    match g.passages[place]? with
    | some ⟨c, a, .arrived⟩ =>
      g.advance place ⟨c, a, .arrived⟩ (.inquire s.services g.cache a now seconds)
    | _ => g
  | .learn place answer now seconds =>
    match g.passages[place]? with
    | some ⟨c, a, .asking f stale⟩ =>
      let (v, cache) := g.cache.settle s.cache.entryTtlSeconds.toNat f stale now answer
      { g with cache }.advance place ⟨c, a, .asking f stale⟩ (.learn s.services a v seconds)
    | _ => g
  | .count place time delay reply seconds =>
    match g.passages[place]? with
    | some ⟨c, a, .reached (.counting d)⟩ =>
      g.advance place ⟨c, a, .reached (.counting d)⟩
        (.count s.limiter a d time delay reply seconds)
    | _ => g
  | .reply place answer millis time took seconds =>
    match g.passages[place]? with
    | some ⟨c, a, .reached (.forwarding d decision)⟩ =>
      let h : Handled := ⟨a, d, answer, millis, time⟩
      (g.meter h).advance place ⟨c, a, .reached (.forwarding d decision)⟩
        (.reply h decision took seconds)
    | _ => g
  | .giveUp place =>
    match g.passages[place]? with
    | some p => if p.progress.isOver then g else g.advance place p (.giveUp p.progress)
    | none => g
  | .hangUp connection =>
    if ∀ p ∈ g.passages, p.connection = connection → p.progress.isOver then
      { g with tracking := g.tracking.step (.discount connection) }
    else g
  | .announce connection => { g with tracking := g.tracking.step (.announce connection) }
  | .turnLoop now => { g with loop := g.loop.turn now }
  | .refresh now answer =>
    let (loop, cache, reports) := g.loop.settle g.cache now answer
    { g with loop, cache, reports := g.reports ++ reports }
  | .emitter e => if isInner e then { g with usage := g.usage.step e } else g
  | .shutDown =>
    match g.phase with
    | .accepting => { g with tracking := g.tracking.step .beginShutdown, phase := .leaving }
    | _ => g
  | .subscribe =>
    match g.phase with
    | .leaving => { g with tracking := g.tracking.step .subscribe, phase := .draining }
    | _ => g
  | .drain turn =>
    match g.phase with
    | .draining =>
      let tracking := g.tracking.step (.turn turn 0)
      match tracking.waits[0]?.bind Wait.result? with
      | some left => { g with tracking, loop := g.loop.requestStop, phase := .stopping left }
      | none => { g with tracking }
    | _ => g
  | .close =>
    match g.phase with
    | .stopping left =>
      { g with
        loop := g.loop.abort
        usage := g.usage.step (.close s.grace)
        phase := .closing left }
    | _ => g

def run (s : Settings) (events : List Event) : Gateway := events.foldl (step s) (start s)

theorem run_append (s : Settings) (events more : List Event) :
    run s (events ++ more) = more.foldl (step s) (run s events) := List.foldl_append

theorem run_concat (s : Settings) (events : List Event) (e : Event) :
    run s (events ++ [e]) = step s (run s events) e := run_append s events [e]

/-- A request that was handled to its end has its event offered. -/
theorem meter_eq (g : Gateway) (h : Handled) :
    ∃ e, h.event? = some e ∧ g.meter h = { g with handled := g.handled ++ [h] }.offer e := by
  obtain ⟨e, he⟩ := h.exists_event?
  refine ⟨e, he, ?_⟩
  rw [meter, he]

/-- All that an event can lead to. -/
inductive Move (s : Settings) (g : Gateway) : Event → Gateway → Prop where
  | idle (e : Event) : Move s g e g
  | connected : Move s g .connect { g with tracking := g.tracking.step .accept }
  | arrived {connection : Nat} (a : Arrival)
      (held : g.tracking.guards[connection]? = some .held) :
      Move s g (.arrive connection a)
        { g with passages := g.passages ++ [⟨connection, a, .arrived⟩] }
  | advanced {e : Event} {place : Nat} {p : Passage} {x : Advance} (cache : Cache)
      (here : g.passages[place]? = some p)
      (next : Advance.Next s.services s.limiter p.arrival p.progress x) :
      Move s g e ({ g with cache }.advance place p x)
  | replied {place connection : Nat} {h : Handled} {decision : Option RateLimit.Decision}
      {e : Usage.Event} (took seconds : Float)
      (here : g.passages[place]? =
        some ⟨connection, h.arrival, .reached (.forwarding h.direction decision)⟩)
      (metered : h.event? = some e) :
      Move s g (.reply place h.answer h.millis h.time took seconds)
        (({ g with handled := g.handled ++ [h] }.offer e).advance place
          ⟨connection, h.arrival, .reached (.forwarding h.direction decision)⟩
          (.reply h decision took seconds))
  | hungUp {connection : Nat}
      (finished : ∀ p ∈ g.passages, p.connection = connection → p.progress.isOver) :
      Move s g (.hangUp connection)
        { g with tracking := g.tracking.step (.discount connection) }
  | announced (connection : Nat) :
      Move s g (.announce connection)
        { g with tracking := g.tracking.step (.announce connection) }
  | turned (now : Instant) : Move s g (.turnLoop now) { g with loop := g.loop.turn now }
  | refreshed (now : Instant) (answer : Except RefreshError Snapshot) :
      Move s g (.refresh now answer)
        { g with
          loop := (g.loop.settle g.cache now answer).1
          cache := (g.loop.settle g.cache now answer).2.1
          reports := g.reports ++ (g.loop.settle g.cache now answer).2.2 }
  | worked {e : Usage.Closing.Event} (inner : isInner e) :
      Move s g (.emitter e) { g with usage := g.usage.step e }
  | shutDown (phase : g.phase = .accepting) :
      Move s g .shutDown
        { g with tracking := g.tracking.step .beginShutdown, phase := .leaving }
  | subscribed (phase : g.phase = .leaving) :
      Move s g .subscribe { g with tracking := g.tracking.step .subscribe, phase := .draining }
  | waited (turn : WaitTurn) (phase : g.phase = .draining)
      (waiting : (g.tracking.step (.turn turn 0)).waits[0]?.bind Wait.result? = none) :
      Move s g (.drain turn) { g with tracking := g.tracking.step (.turn turn 0) }
  | drained (turn : WaitTurn) {left : Nat} (phase : g.phase = .draining)
      (result : (g.tracking.step (.turn turn 0)).waits[0]?.bind Wait.result? = some left) :
      Move s g (.drain turn)
        { g with
          tracking := g.tracking.step (.turn turn 0)
          loop := g.loop.requestStop
          phase := .stopping left }
  | closed {left : Nat} (phase : g.phase = .stopping left) :
      Move s g .close
        { g with
          loop := g.loop.abort
          usage := g.usage.step (.close s.grace)
          phase := .closing left }

/-- Every event makes one of the moves. -/
theorem move_step (s : Settings) (g : Gateway) (e : Event) : Move s g e (step s g e) := by
  cases e with
  | connect => exact .connected
  | arrive connection a =>
    rw [step]
    split
    next hheld => exact .arrived a hheld
    next => exact .idle _
  | inquire place now seconds =>
    rw [step]
    split
    next c a hp => exact .advanced g.cache hp (.inquired ..)
    next => exact .idle _
  | learn place answer now seconds =>
    rw [step]
    split
    next c a f stale hp => exact .advanced _ hp (.learned ..)
    next => exact .idle _
  | count place time delay reply seconds =>
    rw [step]
    split
    next c a d hp => exact .advanced g.cache hp (.counted ..)
    next => exact .idle _
  | reply place answer millis time took seconds =>
    rw [step]
    split
    next c a d decision hp =>
      obtain ⟨e, he, hmeter⟩ := g.meter_eq ⟨a, d, answer, millis, time⟩
      dsimp only
      rw [hmeter]
      exact .replied took seconds hp he
    next => exact .idle _
  | giveUp place =>
    rw [step]
    split
    next p hp =>
      split
      next => exact .idle _
      next hgoing => exact .advanced g.cache hp (.gaveUp (Bool.eq_false_iff.mpr hgoing))
    next => exact .idle _
  | hangUp connection =>
    rw [step]
    split
    next hover => exact .hungUp hover
    next => exact .idle _
  | announce connection => exact .announced connection
  | turnLoop now => exact .turned now
  | refresh now answer => exact .refreshed now answer
  | emitter e =>
    rw [step]
    split
    next hinner => exact .worked hinner
    next => exact .idle _
  | shutDown =>
    rw [step]
    split
    next hphase => exact .shutDown hphase
    next => exact .idle _
  | subscribe =>
    rw [step]
    split
    next hphase => exact .subscribed hphase
    next => exact .idle _
  | drain turn =>
    rw [step]
    split
    next hphase =>
      dsimp only
      split
      next left hresult => exact .drained turn hphase hresult
      next hwaiting => exact .waited turn hphase hwaiting
    next => exact .idle _
  | close =>
    rw [step]
    split
    next left hphase => exact .closed hphase
    next => exact .idle _

end Gateway

end TenantGateway
