import TenantGateway.Tenant.Authenticator
import TenantGateway.Tenant.Refresh

/-! Runs of authentications and refresh cycles over one cache, interleaved in any way. The directory
is anything that answers: it may change, be slow and fail, and each of its answers is part of the
action that receives it. A journal beside the cache keeps how every call and every cycle has ended. -/
namespace TenantGateway.Tenant

/-- An authentication that waits for the directory. -/
structure Waiting where
  credential : String
  asked : Instant
  fingerprint : Fingerprint
  stale : Option Entry

/-- An authentication that has returned. -/
structure Call where
  credential : String
  /-- When it looked at the cache. -/
  asked : Instant
  /-- What the directory has told it, if it had to ask. -/
  own : Option (Except DirectoryError (Option Record))
  verdict : Verdict
  time : Instant

def Call.fingerprint (c : Call) : Fingerprint := .ofCredential (Text.trim c.credential)

/-- A refresh cycle that has ended. -/
structure Cycle where
  answer : Except RefreshError Snapshot
  outcome : CycleOutcome
  time : Instant

inductive Ending where
  | call (c : Call)
  | cycle (c : Cycle)

namespace Ending

def time : Ending → Instant
  | .call c => c.time
  | .cycle c => c.time

/-- The record for a fingerprint that the cache takes over. -/
def given? (f : Fingerprint) : Ending → Option Record
  | .call ⟨credential, _, some (.ok (some r)), .granted _, _⟩ =>
    if Fingerprint.ofCredential (Text.trim credential) = f then some r else none
  | .cycle ⟨.ok s, .refreshed, _⟩ => s[f]?
  | _ => none

/-- Whether a new generation has begun. -/
def isRefresh : Ending → Bool
  | .cycle ⟨_, .refreshed, _⟩ => true
  | _ => false

end Ending

/-- The latest record given for a fingerprint since the last refresh, and when; the latest ending
comes first. -/
def latest? (f : Fingerprint) : List Ending → Option (Record × Instant)
  | [] => none
  | ending :: journal =>
    match ending.given? f with
    | some r => some (r, ending.time)
    | none => if ending.isRefresh then none else latest? f journal

inductive Action where
  | advance (d : Duration)
  | ask (credential : String)
  /-- The directory answers the call at a place among those that wait. -/
  | reply (place : Nat) (answer : Except DirectoryError (Option Record))
  | beginCycle
  | endCycle (answer : Except RefreshError Snapshot)

structure Desk where
  cache : Cache
  refresher : Refresher
  ttlSeconds : Nat
  now : Instant
  waiting : List Waiting
  /-- The latest ending first. -/
  journal : List Ending

namespace Desk

def open_ (ttlSeconds : Nat) (fetchTimeout : Duration) : Desk :=
  { cache := .empty, refresher := .ofLimits ttlSeconds fetchTimeout, ttlSeconds, now := .start
    waiting := [], journal := [] }

def ask (d : Desk) (credential : String) : Desk :=
  match (d.cache.inquire credential d.now).1 with
  | .done verdict => { d with journal := .call ⟨credential, d.now, none, verdict, d.now⟩ :: d.journal }
  | .ask f stale => { d with waiting := d.waiting ++ [⟨credential, d.now, f, stale⟩] }

def reply (d : Desk) (place : Nat) (answer : Except DirectoryError (Option Record)) : Desk :=
  match d.waiting[place]? with
  | none => d
  | some w =>
    let (verdict, cache) := d.cache.settle d.ttlSeconds w.fingerprint w.stale d.now answer
    { d with
      cache
      waiting := d.waiting.eraseIdx place
      journal := .call ⟨w.credential, w.asked, some answer, verdict, d.now⟩ :: d.journal }

def endCycle (d : Desk) (answer : Except RefreshError Snapshot) : Desk :=
  let (outcome, refresher, cache) := d.refresher.complete d.cache d.now answer
  { d with cache, refresher, journal := .cycle ⟨answer, outcome, d.now⟩ :: d.journal }

def step (d : Desk) : Action → Desk
  | .advance span => { d with now := d.now + span }
  | .ask credential => d.ask credential
  | .reply place answer => d.reply place answer
  | .beginCycle => { d with refresher := d.refresher.beginCycle }
  | .endCycle answer => d.endCycle answer

def run (ttlSeconds : Nat) (fetchTimeout : Duration) (actions : List Action) : Desk :=
  actions.foldl step (open_ ttlSeconds fetchTimeout)

theorem run_snoc (ttlSeconds : Nat) (fetchTimeout : Duration) (actions : List Action) (a : Action) :
    run ttlSeconds fetchTimeout (actions ++ [a]) = (run ttlSeconds fetchTimeout actions).step a := by
  simp only [run, List.foldl_append, List.foldl_cons, List.foldl_nil]

end Desk

end TenantGateway.Tenant
