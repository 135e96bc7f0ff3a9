import TenantGateway.Metrics.Measurement
import TenantGateway.Tenant.Cache
import TenantGateway.Tenant.Directory

/-!
Refreshing the cache from the directory. A cycle fetches all active keys, and either replaces the
whole cache by them or, when the fetch fails or takes too long, leaves it as it was.
-/

namespace TenantGateway.Tenant

/-- Why a cycle fails. -/
inductive RefreshError where
  | directory (e : DirectoryError)
  | timeout (limit : Duration)
  deriving DecidableEq, Repr

namespace RefreshError

def isTransient : RefreshError → Bool
  | .directory e => e.isTransient
  | .timeout _ => true

def message : RefreshError → String
  | .directory e => e.message
  | .timeout limit => "tenant directory fetch timed out after " ++ limit.text

end RefreshError

inductive RefreshState where
  | idle
  | fetching
  | swapping
  | stopped
  deriving DecidableEq, Repr

def RefreshState.name : RefreshState → String
  | .idle => "idle"
  | .fetching => "fetching"
  | .swapping => "swapping"
  | .stopped => "stopped"

/-- How the keys of a snapshot differ from those of a cache. -/
structure Difference where
  added : Nat
  updated : Nat
  removed : Nat
  total : Nat
  deriving DecidableEq, Repr, Inhabited

/-- Compares a cache, entries that have expired included, with a snapshot. -/
def Cache.difference (c : Cache) (s : Snapshot) : Difference :=
  { added := (s.toList.filter fun (f, _) => !c.entries.contains f).length
    updated := (s.toList.filter fun (f, r) => c.entries[f]?.any fun e => e.record != r).length
    removed := (c.entries.toList.filter fun (f, _) => !s.contains f).length
    total := s.size }

/-- Entries for all keys of a snapshot, good for some seconds from now. -/
def Snapshot.entries? (s : Snapshot) (ttlSeconds : Nat) (now : Instant) : Option (List Entry) :=
  s.toList.mapM fun (f, r) => Entry.lasting? ttlSeconds now f r

/-- What the last successful cycle changed, and how the cycles so far have ended. -/
structure RefreshStats where
  last : Difference
  lastSuccess : Option Instant
  successfulCycles : Nat
  failedCycles : Nat
  consecutiveFailures : Nat
  deriving DecidableEq, Repr, Inhabited

def RefreshStats.zero : RefreshStats := ⟨⟨0, 0, 0, 0⟩, none, 0, 0, 0⟩

/-- The limits of refreshing, and how it goes. -/
structure Refresher where
  ttlSeconds : Nat
  fetchTimeout : Duration
  stats : RefreshStats
  state : RefreshState
  deriving DecidableEq, Repr

/-- How a cycle ends. -/
inductive CycleOutcome where
  | refreshed
  | failed (e : RefreshError)
  /-- The end of the new entries lies outside the clock's range. -/
  | deadlineOverflow
  deriving DecidableEq, Repr

namespace Refresher

def ofLimits (ttlSeconds : Nat) (fetchTimeout : Duration) : Refresher :=
  { ttlSeconds, fetchTimeout, stats := .zero, state := .idle }

/-- A cycle has succeeded at some time. -/
def isWarm (r : Refresher) : Bool := 0 < r.stats.successfulCycles

/-- A cycle begins. -/
def beginCycle (r : Refresher) : Refresher := { r with state := .fetching }

/-- A cycle has failed. -/
def fail (r : Refresher) : Refresher :=
  { r with
    state := .idle
    stats := { r.stats with
      failedCycles := r.stats.failedCycles + 1
      consecutiveFailures := r.stats.consecutiveFailures + 1 } }

/-- A cycle has succeeded. -/
def succeed (r : Refresher) (d : Difference) (now : Instant) : Refresher :=
  { r with
    state := .idle
    stats := {
      last := d
      lastSuccess := some now
      successfulCycles := r.stats.successfulCycles + 1
      failedCycles := r.stats.failedCycles
      consecutiveFailures := 0 } }

/-- Ends a cycle by what the fetch gave. -/
def complete (r : Refresher) (c : Cache) (now : Instant) (answer : Except RefreshError Snapshot) :
    CycleOutcome × Refresher × Cache :=
  match answer with
  | .error e => (.failed e, r.fail, c)
  | .ok s =>
    match s.entries? r.ttlSeconds now with
    | some es => (.refreshed, r.succeed (c.difference s) now, c.replaceAll (Cache.entriesOf es))
    | none => (.deadlineOverflow, { r with state := .swapping }, c)

/-- What is reported of a cycle's end. -/
def measurements (r : Refresher) : CycleOutcome → List Measurement
  | .refreshed => [.cacheRefresh "ok" (some (UInt64.ofNat r.stats.last.total))]
  | .failed _ => [.cacheRefresh "failed" none]
  | .deadlineOverflow => []

end Refresher

end TenantGateway.Tenant
