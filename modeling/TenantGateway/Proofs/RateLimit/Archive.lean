import TenantGateway.Proofs.RateLimit.Store

/-! A store that keeps every counter that it has ever set, as a measure for one that forgets the
lapsed ones. As long as the clock does not go back, the two give the same answers to everything. -/
namespace TenantGateway.RateLimit

/-- A use of a store: a request to count, the reading of a counter, or a switch of the store. -/
inductive Access where
  | request (q : CounterQuery) (now : Instant)
  | read (key : String) (now : Instant)
  | switch (available : Bool)

/-- When the clock is read for it. -/
def Access.instant? : Access → Option Instant
  | .request _ now => some now
  | .read _ now => some now
  | .switch _ => none

/-- The clock does not go back. -/
def InOrder (accesses : List Access) : Prop :=
  (accesses.filterMap Access.instant?).Pairwise (· ≤ ·)

instance (accesses : List Access) : Decidable (InOrder accesses) :=
  inferInstanceAs (Decidable (List.Pairwise _ _))

/-- Uses that come in order, and not before `now`. -/
structure Upcoming (now : Instant) (accesses : List Access) : Prop where
  later : ∀ t ∈ accesses.filterMap Access.instant?, now ≤ t
  order : InOrder accesses

/-- The next access is not in the past. -/
theorem Upcoming.head {now : Instant} {x : Access} {xs : List Access} (h : Upcoming now (x :: xs)) :
    ∀ t ∈ x.instant?, now ≤ t := fun t ht =>
  h.later t (List.mem_filterMap.mpr ⟨x, List.mem_cons_self, ht⟩)

/-- After an access the others are still to come. -/
theorem Upcoming.tail {now : Instant} {x : Access} {xs : List Access} (h : Upcoming now (x :: xs)) :
    Upcoming (x.instant?.getD now) xs := by
  obtain ⟨hlater, horder⟩ := h
  rw [InOrder] at horder
  cases hx : x.instant? with
  | none =>
    rw [List.filterMap_cons_none hx] at hlater horder
    exact ⟨hlater, horder⟩
  | some time =>
    rw [List.filterMap_cons_some hx] at horder
    exact ⟨(List.pairwise_cons.mp horder).1, (List.pairwise_cons.mp horder).2⟩

inductive Answer where
  | reply (r : Except StoreFailure CounterReply)
  | value (v : Option UInt64)
  | switched

/-- How a store of some kind is used. -/
structure Counting (σ : Type) where
  check : σ → CounterQuery → Instant → Except StoreFailure CounterReply × σ
  get? : σ → String → Instant → Option UInt64
  switch : σ → Bool → σ

namespace Counting

variable {σ : Type}

def respond (store : Counting σ) (s : σ) : Access → Answer × σ
  | .request q now => ((.reply (store.check s q now).1), (store.check s q now).2)
  | .read key now => (.value (store.get? s key now), s)
  | .switch available => (.switched, store.switch s available)

/-- The answers to uses that come one after the other. -/
def answers (store : Counting σ) (s : σ) : List Access → List Answer
  | [] => []
  | x :: xs => (store.respond s x).1 :: store.answers (store.respond s x).2 xs

/-- The store after them. -/
def after (store : Counting σ) (s : σ) (xs : List Access) : σ :=
  xs.foldl (fun s x => (store.respond s x).2) s

end Counting

def MemoryStore.counting : Counting MemoryStore where
  check := check
  get? := get?
  switch s available := { s with available }

/-- Every counter that was ever set, the newest first. -/
structure Archive where
  entries : List (String × Counter)
  available : Bool
  poisoned : Bool

namespace Archive

def empty : Archive := { entries := [], available := true, poisoned := false }

/-- The newest counter of a key, unless it has lapsed. -/
def live (a : Archive) (key : String) (now : Instant) : Option Counter :=
  (a.entries.lookup key).filter (·.isLive now)

def get? (a : Archive) (key : String) (now : Instant) : Option UInt64 :=
  if a.poisoned then none else (a.live key now).map (·.value)

/-- Counts a request as a store in memory does, but adds to the entries and removes none. -/
def record (a : Archive) (q : CounterQuery) (now : Instant) :
    Except StoreFailure CounterReply × Archive :=
  let daily := a.live q.dailyKey now
  let minute := a.live q.minuteKey now
  let dailyCount := (daily.map (·.value)).getD 0
  let minuteCount := (minute.map (·.value)).getD 0
  let refusal (outcome : CounterOutcome) : CounterReply :=
    { outcome, dailyCount, minuteCount
      dailyTtl := daily.map (·.remainingSeconds now)
      minuteTtl := minute.map (·.remainingSeconds now) }
  if q.dailyLimit ≤ dailyCount then (.ok (refusal .dailyExceeded), a)
  else if q.minuteLimit ≤ minuteCount then (.ok (refusal .minuteExceeded), a)
  else
    match MemoryStore.bump daily now q.dailyTtl, MemoryStore.bump minute now q.minuteTtl with
    | some daily, some minute =>
      (.ok (MemoryStore.receipt now daily minute),
        { a with entries := (q.minuteKey, minute) :: (q.dailyKey, daily) :: a.entries })
    | _, _ => (.error .deadlineOverflow, { a with poisoned := true })

def check (a : Archive) (q : CounterQuery) (now : Instant) :
    Except StoreFailure CounterReply × Archive :=
  if ¬ a.available then
    (.error (.error (.unavailable "memory counter store marked unavailable")), a)
  else if a.poisoned then
    (.error (.error (.unavailable "counter lock poisoned")), a)
  else a.record q now

def counting : Counting Archive where
  check := check
  get? := get?
  switch a available := { a with available }

end Archive

open MemoryStore

/-- From `now` on, a store shows what an archive shows. -/
structure Mirrors (now : Instant) (s : MemoryStore) (a : Archive) : Prop where
  available : s.available = a.available
  poisoned : s.poisoned = a.poisoned
  shown : ∀ key later, now ≤ later → live s.counters key later = a.live key later

namespace Mirrors

variable {now time : Instant} {s : MemoryStore} {a : Archive}

/-- A new store and a new archive hold the same. -/
theorem empty : Mirrors .start .empty .empty :=
  ⟨rfl, rfl, fun key later _ => by simp [live, MemoryStore.empty, Archive.live, Archive.empty]⟩

/-- What will be read alike from now on will be so later. -/
theorem mono (h : Mirrors now s a) (hle : now ≤ time) : Mirrors time s a :=
  ⟨h.available, h.poisoned, fun key later hlater => h.shown key later (Nat.le_trans hle hlater)⟩

/-- Forgetting what has lapsed does not show. -/
theorem purged (h : Mirrors now s a) : Mirrors now (s.purged now) a :=
  ⟨h.available, h.poisoned, fun key later hlater =>
    (live_purge s.counters key hlater).trans (h.shown key later hlater)⟩

private theorem live_cons (a : Archive) (key other : String) (c : Counter) (later : Instant) :
    Archive.live { a with entries := (key, c) :: a.entries } other later =
      if key = other then (if c.isLive later then some c else none) else a.live other later := by
  rw [Archive.live, List.lookup_cons]
  by_cases hkey : key = other
  · subst hkey
    simp [Option.filter_some]
  · rw [if_neg hkey, beq_false_of_ne (Ne.symm hkey)]
    rfl

private theorem counted (h : Mirrors now s a) (q : CounterQuery) (daily minute : Counter) :
    Mirrors now (s.counted q now daily minute)
      { a with entries := (q.minuteKey, minute) :: (q.dailyKey, daily) :: a.entries } := by
  refine ⟨h.available, h.poisoned, fun key later hlater => ?_⟩
  rw [live_counted hlater, h.shown key later hlater]
  exact ((live_cons { a with entries := (q.dailyKey, daily) :: a.entries } _ _ _ _).trans
    (by rw [live_cons])).symm

/-- A request is answered alike, and the store still shows what the archive shows. -/
theorem check (h : Mirrors now s a) (q : CounterQuery) :
    (s.check q now).1 = (a.check q now).1 ∧ Mirrors now (s.check q now).2 (a.check q now).2 := by
  cases ha : s.available with
  | false =>
    simp only [MemoryStore.check, Archive.check, ha, ← h.available, Bool.false_eq_true,
      not_false_eq_true, if_true, true_and]
    exact h
  | true =>
    cases hp : s.poisoned with
    | true =>
      simp only [MemoryStore.check, Archive.check, ha, ← h.available, hp, ← h.poisoned,
        not_true_eq_false, if_true, if_false, true_and]
      exact h
    | false =>
      have hday := h.shown q.dailyKey now (Nat.le_refl _)
      have hmin := h.shown q.minuteKey now (Nat.le_refl _)
      have hrecord : a.check q now = a.record q now := by
        rw [Archive.check, ← h.available, ← h.poisoned, ha, hp, if_neg (by decide),
          if_neg (by decide)]
      rw [check_eq ⟨ha, hp⟩, hrecord]
      simp only [count, refusal, Archive.record, hday, hmin]
      split
      · exact ⟨rfl, h.purged⟩
      · split
        · exact ⟨rfl, h.purged⟩
        · rcases bump (a.live q.dailyKey now) now q.dailyTtl with _ | daily
          · exact ⟨rfl, ⟨h.available, rfl, h.purged.shown⟩⟩
          · rcases bump (a.live q.minuteKey now) now q.minuteTtl with _ | minute
            · exact ⟨rfl, ⟨h.available, rfl, h.purged.shown⟩⟩
            · exact ⟨rfl, h.counted q daily minute⟩

private theorem get?_eq (h : Mirrors now s a) (key : String) : s.get? key now = a.get? key now := by
  rw [MemoryStore.get?, Archive.get?, h.poisoned, h.shown key now (Nat.le_refl _)]

/-- A use is answered alike, and the store still shows what the archive shows. -/
theorem respond (h : Mirrors now s a) {x : Access} (hx : ∀ t ∈ x.instant?, now ≤ t) :
    (MemoryStore.counting.respond s x).1 = (Archive.counting.respond a x).1 ∧
      Mirrors (x.instant?.getD now) (MemoryStore.counting.respond s x).2
        (Archive.counting.respond a x).2 := by
  cases x with
  | request q time =>
    obtain ⟨hreply, hafter⟩ := (h.mono (hx time rfl)).check q
    exact ⟨congrArg Answer.reply hreply, hafter⟩
  | read key time =>
    have htime := h.mono (hx time rfl)
    exact ⟨congrArg Answer.value (htime.get?_eq key), htime⟩
  | switch available => exact ⟨rfl, rfl, h.poisoned, h.shown⟩

/-- Nothing that comes after `now` tells the two apart. -/
theorem answers_eq (h : Mirrors now s a) {xs : List Access} (hxs : Upcoming now xs) :
    MemoryStore.counting.answers s xs = Archive.counting.answers a xs := by
  induction xs generalizing now s a with
  | nil => rfl
  | cons x xs ih =>
    obtain ⟨hanswer, hafter⟩ := h.respond hxs.head
    rw [Counting.answers, Counting.answers, hanswer, ih hafter hxs.tail]

/-- The store shows what the archive shows, however far they have been used. -/
theorem after (h : Mirrors now s a) {before rest : List Access}
    (hxs : Upcoming now (before ++ rest)) :
    ∃ time, Mirrors time (MemoryStore.counting.after s before) (Archive.counting.after a before) ∧
      Upcoming time rest := by
  induction before generalizing now s a with
  | nil => exact ⟨now, h, hxs⟩
  | cons x before ih => exact ih (h.respond hxs.head).2 hxs.tail

end Mirrors

/-- The request was counted, rather than denied or failed. -/
def IsCounted (r : Except StoreFailure CounterReply) : Prop :=
  ∃ reply, r = .ok reply ∧ reply.outcome = .incremented

namespace Archive

variable {a : Archive} {q : CounterQuery} {now : Instant}

private theorem record_cases (a : Archive) (hr : q.InRange now) :
    (a.record q now).2 = a ∨ IsCounted (a.record q now).1 := by
  simp only [record]
  split
  · exact .inl rfl
  · split
    · exact .inl rfl
    · cases hday : bump (a.live q.dailyKey now) now q.dailyTtl with
      | none => exact absurd hr.1 (not_isSome_of_bump_eq_none hday)
      | some daily =>
        cases hmin : bump (a.live q.minuteKey now) now q.minuteTtl with
        | none => exact absurd hr.2 (not_isSome_of_bump_eq_none hmin)
        | some minute => exact .inr ⟨_, rfl, rfl⟩

/-- A request that is not counted leaves an archive as it was. -/
theorem check_of_not_isCounted (hr : q.InRange now) (h : ¬ IsCounted (a.check q now).1) :
    (a.check q now).2 = a := by
  rw [check] at h ⊢
  split
  · rfl
  next havailable =>
    rw [if_neg havailable] at h
    split
    · rfl
    next hpoisoned =>
      rw [if_neg hpoisoned] at h
      exact (a.record_cases hr).resolve_right h

end Archive

end TenantGateway.RateLimit
