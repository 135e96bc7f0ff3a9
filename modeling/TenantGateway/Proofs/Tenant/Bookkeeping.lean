import TenantGateway.Proofs.Tenant.Cache
import TenantGateway.Service.Health
import Mathlib.Data.List.Induction

/-! What the figures of a refresher say about the cycles so far. Cycles end in any way, and entries are
set at any time, also while a cycle waits for its fetch. A journal beside the cache keeps how every
cycle has ended, and every figure is read off the journal: those of a success off the latest success,
the run of failures off the newest part, readiness off the whole. -/
namespace TenantGateway.Tenant

/-- A refresh cycle that has ended: the cache as it found it, what its fetch has given, and when. -/
structure PastCycle where
  found : Cache
  answer : Except RefreshError Snapshot
  time : Instant

namespace PastCycle

def succeeded (c : PastCycle) : Bool := c.answer.isOk

/-- How the keys of the fetched snapshot differ from those found; nothing when there is none. -/
def change (c : PastCycle) : Difference :=
  match c.answer with
  | .ok s => c.found.difference s
  | .error _ => ⟨0, 0, 0, 0⟩

end PastCycle

/-- A cache, and the refresher that alone replaces it. -/
structure Upkeep where
  cache : Cache
  refresher : Refresher
  now : Instant
  /-- A cycle has begun and not ended. -/
  underWay : Bool
  /-- The latest cycle first. -/
  journal : List PastCycle

namespace Upkeep

inductive Event where
  | advance (span : Duration)
  /-- Someone else sets one entry. -/
  | upsert (e : Entry)
  | beginCycle
  | endCycle (answer : Except RefreshError Snapshot)

def begin_ (ttlSeconds : Nat) (fetchTimeout : Duration) : Upkeep :=
  { cache := .empty, refresher := .ofLimits ttlSeconds fetchTimeout, now := .start
    underWay := false, journal := [] }

def endCycle (u : Upkeep) (answer : Except RefreshError Snapshot) : Upkeep :=
  let (_, refresher, cache) := u.refresher.complete u.cache u.now answer
  { u with cache, refresher, underWay := false, journal := ⟨u.cache, answer, u.now⟩ :: u.journal }

def step (u : Upkeep) : Event → Upkeep
  | .advance span => { u with now := u.now + span }
  | .upsert e => { u with cache := u.cache.upsert e }
  | .beginCycle => { u with refresher := u.refresher.beginCycle, underWay := true }
  | .endCycle answer => u.endCycle answer

def run (ttlSeconds : Nat) (fetchTimeout : Duration) (events : List Event) : Upkeep :=
  events.foldl step (begin_ ttlSeconds fetchTimeout)

private theorem run_append (ttlSeconds : Nat) (fetchTimeout : Duration) (events more : List Event) :
    run ttlSeconds fetchTimeout (events ++ more) =
      more.foldl step (run ttlSeconds fetchTimeout events) := List.foldl_append

/-- The gateway tells that it is ready, and the loop that it is warm. -/
def Ready (u : Upkeep) : Prop :=
  (Health.ready u.cache).status = 200 ∧ u.refresher.isWarm = true

/-- The clock can represent the ends of all entries that cycles have made. -/
def InRange (ttlSeconds : Nat) (u : Upkeep) : Prop :=
  ∀ c ∈ u.journal, c.succeeded = true → (c.time + Duration.ofSeconds ttlSeconds).InRange

instance (ttlSeconds : Nat) (u : Upkeep) : Decidable (u.InRange ttlSeconds) :=
  inferInstanceAs (Decidable (∀ c ∈ u.journal, _))

/-- The figures of a refresher as its journal has them. -/
structure Booked (u : Upkeep) : Prop where
  generation : u.cache.generation = u.refresher.stats.successfulCycles
  successfulCycles : u.refresher.stats.successfulCycles = u.journal.countP (·.succeeded)
  failedCycles : u.refresher.stats.failedCycles = u.journal.countP (!·.succeeded)
  /-- The failures since the latest success. -/
  consecutiveFailures :
    u.refresher.stats.consecutiveFailures = (u.journal.takeWhile (!·.succeeded)).length
  last : u.refresher.stats.last =
    ((u.journal.find? (·.succeeded)).map PastCycle.change).getD ⟨0, 0, 0, 0⟩
  lastSuccess : u.refresher.stats.lastSuccess = (u.journal.find? (·.succeeded)).map (·.time)
  state : u.refresher.state = if u.underWay then .fetching else .idle

variable {ttlSeconds : Nat} {fetchTimeout : Duration} {u : Upkeep}

private theorem status_ready (c : Cache) : (Health.ready c).status = 200 ↔ c.generation ≠ 0 := by
  unfold Health.ready
  split
  next h => simp [h]
  next h => simp [h]

private theorem Booked.ready_iff (h : u.Booked) :
    ((Health.ready u.cache).status = 200 ↔ ∃ c ∈ u.journal, c.succeeded = true) ∧
      (u.refresher.isWarm = true ↔ ∃ c ∈ u.journal, c.succeeded = true) := by
  have hcount : u.refresher.stats.successfulCycles ≠ 0 ↔ ∃ c ∈ u.journal, c.succeeded = true := by
    rw [h.successfulCycles, ← List.countP_pos_iff, Nat.pos_iff_ne_zero]
  constructor
  · rw [status_ready, h.generation, hcount]
  · rw [Refresher.isWarm, decide_eq_true_iff, Nat.pos_iff_ne_zero, hcount]

private theorem booked_begin (ttlSeconds : Nat) (fetchTimeout : Duration) :
    (begin_ ttlSeconds fetchTimeout).Booked :=
  ⟨rfl, rfl, rfl, rfl, rfl, rfl, rfl⟩

private theorem Booked.failed (h : u.Booked) (e : RefreshError) :
    (u.endCycle (.error e)).Booked where
  generation := h.generation
  successfulCycles := h.successfulCycles
  failedCycles := (congrArg (· + 1) h.failedCycles).trans (List.countP_cons_of_pos rfl).symm
  consecutiveFailures := congrArg (· + 1) h.consecutiveFailures
  last := h.last
  lastSuccess := h.lastSuccess
  state := rfl

private theorem endCycle_of_inRange (s : Snapshot)
    (hrange : (u.now + Duration.ofSeconds u.refresher.ttlSeconds).InRange) :
    ∃ entries, u.endCycle (.ok s) =
      { u with
        cache := u.cache.replaceAll entries
        refresher := u.refresher.succeed (u.cache.difference s) u.now
        underWay := false
        journal := ⟨u.cache, .ok s, u.now⟩ :: u.journal } := by
  obtain ⟨es, hes⟩ := Snapshot.exists_entries? hrange s
  refine ⟨Cache.entriesOf es, ?_⟩
  simp only [endCycle, Refresher.complete, hes]

private theorem Booked.refreshed (h : u.Booked) (s : Snapshot)
    (hrange : (u.now + Duration.ofSeconds u.refresher.ttlSeconds).InRange) :
    (u.endCycle (.ok s)).Booked := by
  obtain ⟨entries, hend⟩ := endCycle_of_inRange s hrange
  rw [hend]
  exact {
    generation := congrArg (· + 1) h.generation
    successfulCycles :=
      (congrArg (· + 1) h.successfulCycles).trans (List.countP_cons_of_pos rfl).symm
    failedCycles := h.failedCycles
    consecutiveFailures := rfl
    last := rfl
    lastSuccess := rfl
    state := rfl }

private theorem ttlSeconds_step (u : Upkeep) (e : Event) :
    (u.step e).refresher.ttlSeconds = u.refresher.ttlSeconds := by
  cases e with
  | advance span => rfl
  | upsert e => rfl
  | beginCycle => rfl
  | endCycle answer =>
    rcases u.refresher.complete_cases u.cache u.now answer with
      ⟨e, -, hend⟩ | ⟨s, entries, -, hend, -⟩ | ⟨s, -, -, hend⟩
    all_goals simp only [step, endCycle, hend, Refresher.fail, Refresher.succeed]

private theorem ttlSeconds_run (ttlSeconds : Nat) (fetchTimeout : Duration) (events : List Event) :
    (run ttlSeconds fetchTimeout events).refresher.ttlSeconds = ttlSeconds := by
  induction events using List.reverseRecOn with
  | nil => rfl
  | append_singleton events e ih =>
    rw [run_append]
    exact (ttlSeconds_step _ e).trans ih

private theorem journal_step (u : Upkeep) (e : Event) : u.journal ⊆ (u.step e).journal := by
  cases e with
  | advance span => exact List.Subset.refl _
  | upsert e => exact List.Subset.refl _
  | beginCycle => exact List.Subset.refl _
  | endCycle answer => exact List.subset_cons_self _ _

private theorem Booked.step (h : u.Booked) (e : Event) (httl : u.refresher.ttlSeconds = ttlSeconds)
    (hrange : (u.step e).InRange ttlSeconds) : (u.step e).Booked := by
  cases e with
  | advance span => exact { h with }
  | upsert e => exact { h with }
  | beginCycle => exact { h with state := rfl }
  | endCycle answer =>
    cases answer with
    | error e => exact h.failed e
    | ok s =>
      have hnow := hrange ⟨u.cache, .ok s, u.now⟩ List.mem_cons_self rfl
      rw [← httl] at hnow
      exact h.refreshed s hnow

private theorem Ready.step (h : u.Ready) (e : Event) : (u.step e).Ready := by
  -- Once the first cycle has succeeded, nothing takes the readiness back.
  obtain ⟨hready, hwarm⟩ := h
  cases e with
  | advance span => exact ⟨hready, hwarm⟩
  | upsert e => exact ⟨(status_ready _).mpr ((status_ready u.cache).mp hready), hwarm⟩
  | beginCycle => exact ⟨hready, hwarm⟩
  | endCycle answer =>
    rcases u.refresher.complete_cases u.cache u.now answer with
      ⟨e, -, hend⟩ | ⟨s, entries, -, hend, -⟩ | ⟨s, -, -, hend⟩
    all_goals simp only [Ready, Upkeep.step, endCycle, hend]
    · exact ⟨hready, hwarm⟩
    · exact ⟨(status_ready _).mpr (Nat.succ_ne_zero _), decide_eq_true (Nat.succ_pos _)⟩
    · exact ⟨hready, hwarm⟩

private theorem Ready.foldl (h : u.Ready) (more : List Event) :
    (more.foldl Upkeep.step u).Ready := by
  induction more generalizing u with
  | nil => exact h
  | cons e more ih => exact ih (h.step e)

private theorem booked_run (events : List Event)
    (h : (run ttlSeconds fetchTimeout events).InRange ttlSeconds) :
    (run ttlSeconds fetchTimeout events).Booked := by
  induction events using List.reverseRecOn with
  | nil => exact booked_begin ttlSeconds fetchTimeout
  | append_singleton events e ih =>
    rw [run_append] at h ⊢
    have hpast : (run ttlSeconds fetchTimeout events).InRange ttlSeconds :=
      fun c hc => h c (journal_step _ e hc)
    exact (ih hpast).step e (ttlSeconds_run _ _ _) h

/-- A failed cycle leaves the cache as it was, and the gateway is ready and warm exactly from the first
success on, for good. -/
structure Lawful (u : Upkeep) : Prop extends Booked u where
  begins : (u.step .beginCycle).cache = u.cache
  fails : ∀ e, (u.step (.endCycle (.error e))).cache = u.cache
  ready : (Health.ready u.cache).status = 200 ↔ ∃ c ∈ u.journal, c.succeeded = true
  warm : u.refresher.isWarm = true ↔ ∃ c ∈ u.journal, c.succeeded = true
  lasts : u.Ready → ∀ more : List Event, (more.foldl Upkeep.step u).Ready

/-- The bookkeeping of a refresher over any run of cycles and other changes of the cache, as long as the
clock can represent when the entries end. -/
theorem lawful_run (ttlSeconds : Nat) (fetchTimeout : Duration) (events : List Event)
    (h : (run ttlSeconds fetchTimeout events).InRange ttlSeconds) :
    (run ttlSeconds fetchTimeout events).Lawful := by
  have hbooked := booked_run events h
  exact {
    hbooked with
    begins := rfl
    fails := fun _ => rfl
    ready := hbooked.ready_iff.1
    warm := hbooked.ready_iff.2
    lasts := fun hnow more => hnow.foldl more }

/-- A cycle that times out, two that succeed, with an entry set in the course of the second, and one
that fails for good. -/
def unevenCycles (a b : Fingerprint) (r : Record) : List Event :=
  [.beginCycle, .endCycle (.error (.timeout (.ofSeconds 5))), .advance (.ofSeconds 30),
    .beginCycle, .endCycle (.ok ((∅ : Snapshot).insert a r)), .advance (.ofSeconds 30),
    .beginCycle, .upsert ⟨b, r, ⟨90000000000⟩⟩, .endCycle (.ok ((∅ : Snapshot).insert a r)),
    .beginCycle, .endCycle (.error (.directory (.permanent "gone")))]

/-- Four cycles, the first and the last of which fail. -/
theorem lawful_run_of_unevenCycles :
    (run 60 (.ofSeconds 5) (unevenCycles ⟨"a"⟩ ⟨"b"⟩ ⟨"org", "key_a", ⟨10, 100, 5⟩⟩)).InRange 60 ∧
      (run 60 (.ofSeconds 5) (unevenCycles ⟨"a"⟩ ⟨"b"⟩ ⟨"org", "key_a", ⟨10, 100, 5⟩⟩)).Lawful ∧
      (run 60 (.ofSeconds 5)
          (unevenCycles ⟨"a"⟩ ⟨"b"⟩ ⟨"org", "key_a", ⟨10, 100, 5⟩⟩)).refresher.stats =
        ⟨⟨0, 0, 1, 1⟩, some ⟨60000000000⟩, 2, 2, 1⟩ := by
  have hrange : (run 60 (.ofSeconds 5)
      (unevenCycles ⟨"a"⟩ ⟨"b"⟩ ⟨"org", "key_a", ⟨10, 100, 5⟩⟩)).InRange 60 := by decide
  exact ⟨hrange, lawful_run 60 (.ofSeconds 5) _ hrange, by rfl⟩

end Upkeep

end TenantGateway.Tenant
