import TenantGateway.Tenant.Authenticator
import TenantGateway.Tenant.KeyFile
import TenantGateway.Tenant.RefreshLoop

/-!
Cache, authentication and refreshing on a virtual clock, over a directory that can be slow, be out
of order or be unavailable. The refresh loop runs while a call takes its time.
-/

namespace TenantGateway.Simulation

open Tenant

/-- Where tenants are looked up: in memory, or in a key file that is read anew each time. -/
inductive DirectorySource where
  | memory (d : MemoryDirectory)
  | keyFile (path : String) (content : Except String String) (wall : Calendar.Timestamp)

namespace DirectorySource

def fetchAll : DirectorySource → Except DirectoryError Snapshot
  | .memory d => d.fetchAll
  | .keyFile path content wall => KeyFile.fetchAll path content wall

def fetchOne (f : Fingerprint) : DirectorySource → Except DirectoryError (Option Record)
  | .memory d => d.fetchOne f
  | .keyFile path content wall => KeyFile.fetchOne path content wall f

end DirectorySource

/-- A directory behind a delay. A call that fails for good does not reach it. -/
structure SlowDirectory where
  source : DirectorySource
  delay : Duration
  broken : Bool
  allCalls : Nat
  oneCalls : Nat

namespace SlowDirectory

def ofSource (source : DirectorySource) : SlowDirectory :=
  { source, delay := .zero, broken := false, allCalls := 0, oneCalls := 0 }

def insert (d : SlowDirectory) (f : Fingerprint) (r : Record) : SlowDirectory :=
  match d.source with
  | .memory m => { d with source := .memory (m.insert f r) }
  | .keyFile .. => d

def remove (d : SlowDirectory) (f : Fingerprint) : Option Record × SlowDirectory :=
  match d.source with
  | .memory m =>
    let (r, m) := m.remove f
    (r, { d with source := .memory m })
  | .keyFile .. => (none, d)

def setAvailable (d : SlowDirectory) (value : Bool) : SlowDirectory :=
  match d.source with
  | .memory m => { d with source := .memory { m with available := value } }
  | .keyFile .. => d

def defect : DirectoryError := .permanent "injected"

def fetchAll (d : SlowDirectory) : Except DirectoryError Snapshot × SlowDirectory :=
  if d.broken then (.error defect, d)
  else (d.source.fetchAll, { d with allCalls := d.allCalls + 1 })

def fetchOne (d : SlowDirectory) (f : Fingerprint) :
    Except DirectoryError (Option Record) × SlowDirectory :=
  if d.broken then (.error defect, d)
  else (d.source.fetchOne f, { d with oneCalls := d.oneCalls + 1 })

end SlowDirectory

/-- Who drives the refresher. -/
inductive Custody where
  /-- Single cycles, on demand. -/
  | onDemand (r : Refresher)
  | looping (l : RefreshLoop)
  /-- Nobody any more. -/
  | released

/-- The fetch of a cycle under way: when it ends, and whether it runs out of time. -/
structure Fetch where
  due : Instant
  timesOut : Bool

structure TenantSession where
  cache : Cache
  directory : SlowDirectory
  custody : Custody
  inFlight : Option Fetch
  ttlSeconds : Nat
  now : Instant
  /-- What has been reported, the latest first. -/
  reports : List Measurement

namespace TenantSession

def ofDirectory (directory : SlowDirectory) (ttlSeconds : Nat) (fetchTimeout : Duration) :
    TenantSession :=
  { cache := .empty, directory
    custody := .onDemand (.ofLimits ttlSeconds fetchTimeout), inFlight := none, ttlSeconds
    now := .start, reports := [] }

def report (s : TenantSession) (ms : List Measurement) : TenantSession :=
  { s with reports := ms.reverse ++ s.reports }

/-- The fetch that begins now; an answer at the very limit is in time. -/
def fetchOf (s : TenantSession) (r : Refresher) : Fetch :=
  if r.fetchTimeout < s.directory.delay then { due := s.now + r.fetchTimeout, timesOut := true }
  else { due := s.now + s.directory.delay, timesOut := false }

/-- What a fetch gives once it is due. -/
def answer (s : TenantSession) (r : Refresher) (f : Fetch) :
    Except RefreshError Snapshot × TenantSession :=
  if f.timesOut then (.error (.timeout r.fetchTimeout), s)
  else
    let (answer, directory) := s.directory.fetchAll
    (answer.mapError .directory, { s with directory })

/-- What the loop can do at this instant, if anything. -/
def step? (s : TenantSession) : Option TenantSession :=
  match s.custody with
  | .looping l =>
    match l.phase with
    | .fresh => some { s with custody := .looping (l.start s.now) }
    | .waiting due =>
      if l.stopping ∨ due ≤ s.now then some { s with custody := .looping (l.tick s.now) } else none
    | .fetching _ =>
      match s.inFlight with
      | none => some { s with inFlight := some (s.fetchOf l.refresher) }
      | some f =>
        if f.due ≤ s.now then
          let (answer, s) := s.answer l.refresher f
          let (l, cache, ms) := l.settle s.cache s.now answer
          some (report { s with custody := .looping l, cache, inFlight := none } ms)
        else none
    | .ended | .broken => none
  | _ => none

/-- The instant at which the loop can go on. -/
def due? (s : TenantSession) : Option Instant :=
  match s.custody with
  | .looping l =>
    match l.phase with
    | .waiting due => some due
    | .fetching _ => s.inFlight.map (·.due)
    | _ => none
  | _ => none

/-- Lets the loop run while it has something due that `soon` allows. -/
def runWhile (soon : Instant → Bool) : Nat → TenantSession → TenantSession
  | 0, s => s
  | fuel + 1, s =>
    match s.step? with
    | some s => runWhile soon fuel s
    | none =>
      match s.due? with
      | some due => if soon due then runWhile soon fuel { s with now := due } else s
      | none => s

/-- Steps enough up to `target`: a cycle takes a handful, and begins at most once a millisecond. -/
def fuel (s : TenantSession) (target : Instant) : Nat :=
  8 * (target.since s.now).wholeMillis + 16

/-- Lets the loop do all that is due before `target`. -/
def runBefore (s : TenantSession) (target : Instant) : TenantSession :=
  { runWhile (fun due => due < target) (s.fuel target) s with now := target }

/-- Lets the loop do all that is due up to `target`. -/
def runThrough (s : TenantSession) (target : Instant) : TenantSession :=
  { runWhile (fun due => due ≤ target) (s.fuel target) s with now := target }

/-- Lets time pass. Nothing runs in no time. -/
def wait (s : TenantSession) (d : Duration) : TenantSession :=
  if d.nanos = 0 then s else s.runBefore (s.now + d)

/-- Authenticates a caller; what the loop has due comes first. -/
def authenticate (s : TenantSession) (credential : Option String) : Verdict × TenantSession :=
  let s := s.runThrough s.now
  match credential with
  | none => (.denied .missing, s.report [.authFailure AuthError.missing.code])
  | some credential =>
    let (next, ms) := s.cache.inquire credential s.now
    let s := s.report ms
    match next with
    | .done verdict => (verdict, s)
    | .ask f stale =>
      let s := s.runThrough (s.now + s.directory.delay)
      let (answer, directory) := s.directory.fetchOne f
      let (verdict, cache) := s.cache.settle s.ttlSeconds f stale s.now answer
      (verdict, report { s with directory, cache } verdict.measurements)

/-- Lets the loop end its first cycle. -/
def awaitCycle (s : TenantSession) : Nat → TenantSession
  | 0 => s
  | fuel + 1 =>
    match s.custody with
    | .looping l =>
      if 0 < l.refresher.stats.successfulCycles + l.refresher.stats.failedCycles then s
      else
        match s.step?, s.due? with
        | some s, _ => awaitCycle s fuel
        | none, some due => awaitCycle { s with now := due } fuel
        | none, none => s
    | _ => s

/-- One cycle on demand; `none` when the refresher is not at hand. -/
def refresh (s : TenantSession) : Option (CycleOutcome × RefreshStats) × TenantSession :=
  match s.custody with
  | .onDemand r =>
    let r := r.beginCycle
    let f := s.fetchOf r
    let (answer, s) := { s with now := f.due }.answer r f
    let (outcome, r, cache) := r.complete s.cache s.now answer
    (some (outcome, r.stats),
      report { s with cache, custody := .onDemand r } (r.measurements outcome))
  | _ => (none, s)

/-- Hands the refresher to a loop. -/
def startLoop (s : TenantSession) (period : Duration) : TenantSession :=
  match s.custody with
  | .onDemand r => { s with custody := .looping (.ofRefresher r period) }
  | _ => s

/-- Stops the loop: a cycle under way may use the grace, and is given up after it. -/
def shutdown (s : TenantSession) (grace : Duration) : TenantSession :=
  match s.custody with
  | .looping l =>
    let began := s.now
    let s := { s with custody := .looping l.requestStop }
    let s :=
      if grace.nanos = 0 then s
      else runWhile (fun due => due < began + grace) (s.fuel (began + grace)) s
    let ended :=
      match s.custody with
      | .looping l => l.hasEnded
      | _ => true
    { s with
      custody := .released
      inFlight := none
      now := if ended then s.now else began + grace }
  | _ => s

/-- The refresher's figures and state; after a shutdown there are none. -/
def stats (s : TenantSession) : RefreshStats × RefreshState :=
  match s.custody with
  | .onDemand r => (r.stats, r.state)
  | .looping l => (l.refresher.stats, l.refresher.state)
  | .released => (.zero, .stopped)

/-- Whether the loop has filled the cache, while there is a loop. -/
def isWarm? (s : TenantSession) : Option Bool :=
  match s.custody with
  | .looping l => some l.refresher.isWarm
  | _ => none

end TenantSession

end TenantGateway.Simulation
