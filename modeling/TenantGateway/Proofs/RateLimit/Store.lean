import TenantGateway.RateLimit.MemoryStore

/-! What a call does to counters in memory, said once: the ways in which a call of a store that
answers can end, with its reply and the counters it leaves. Purging is invisible to live counters. -/
namespace TenantGateway.RateLimit

/-- The clock can represent the deadlines that a request may set. -/
def CounterQuery.InRange (q : CounterQuery) (now : Instant) : Prop :=
  (now.deadline? q.dailyTtl.toNat).isSome ∧ (now.deadline? q.minuteTtl.toNat).isSome

namespace MemoryStore

/-- The count that a call reads under a key: that of the live counter, or zero. -/
def count (counters : Std.ExtTreeMap String Counter) (key : String) (now : Instant) : UInt64 :=
  ((live counters key now).map (·.value)).getD 0

/-- A store that answers calls. -/
structure Serving (s : MemoryStore) : Prop where
  available : s.available = true
  sound : s.poisoned = false

/-- A new store serves. -/
theorem serving_empty : Serving empty := ⟨rfl, rfl⟩

/-- A counter that lives later lives now. -/
theorem isLive_of_le {c : Counter} {now later : Instant} (h : now ≤ later)
    (hl : c.isLive later = true) : c.isLive now = true := by
  simp only [Counter.isLive, decide_eq_true_eq, Instant.lt_def, Instant.le_def] at *
  omega

/-- Purging removes nothing that a later call could still see. -/
theorem live_purge (m : Std.ExtTreeMap String Counter) (key : String) {now later : Instant}
    (h : now ≤ later) : live (purge m now) key later = live m key later := by
  unfold purge
  split
  · simp only [live, Std.ExtTreeMap.getElem?_filter', Option.filter_filter]
    congr 1
    funext c
    by_cases hl : c.isLive later = true
    · simp only [hl, isLive_of_le h hl, Bool.and_self]
    · simp only [Bool.not_eq_true _ ▸ hl, Bool.and_false]
  · rfl

private theorem live_insert_self (m : Std.ExtTreeMap String Counter) (key : String) (c : Counter)
    (now : Instant) : live (m.insert key c) key now = if c.isLive now then some c else none := by
  simp only [live, Std.ExtTreeMap.getElem?_insert_self, Option.filter_some]

private theorem live_insert_of_ne (m : Std.ExtTreeMap String Counter) {key other : String}
    (c : Counter) (now : Instant) (h : key ≠ other) :
    live (m.insert key c) other now = live m other now := by
  simp only [live, Std.ExtTreeMap.getElem?_insert, Std.compare_eq_iff_eq, if_neg h]

/-- One more request under a counter below a limit adds one, without wrapping round. -/
theorem value_of_bump {existing : Option Counter} {now : Instant} {ttl limit : UInt64} {c : Counter}
    (hlt : (existing.map Counter.value).getD 0 < limit) (h : bump existing now ttl = some c) :
    c.value.toNat = ((existing.map Counter.value).getD 0).toNat + 1 := by
  cases existing with
  | none =>
    obtain ⟨due, -, rfl⟩ := Option.map_eq_some_iff.mp h
    rfl
  | some old =>
    cases h
    have hv := UInt64.lt_iff_toNat_lt.mp hlt
    have hmax := limit.toNat_lt
    change old.value.toNat < limit.toNat at hv
    change (old.value + 1).toNat = old.value.toNat + 1
    rw [UInt64.toNat_add, UInt64.toNat_one]
    omega

/-- The deadline of a counter that counts one more request is the old one or that of a new
counter. -/
theorem expiresAt_of_bump {existing : Option Counter} {now : Instant} {ttl : UInt64} {c : Counter}
    (h : bump existing now ttl = some c) :
    c.expiresAt = (existing.map Counter.expiresAt).getD (now + Duration.ofSeconds ttl.toNat) := by
  cases existing with
  | none =>
    obtain ⟨due, hdue, rfl⟩ := Option.map_eq_some_iff.mp h
    exact (Instant.deadline?_eq_some_iff.mp hdue).1
  | some old =>
    cases h
    rfl

/-- A request goes uncounted only for want of a deadline. -/
theorem not_isSome_of_bump_eq_none {existing : Option Counter} {now : Instant} {ttl : UInt64}
    (h : bump existing now ttl = none) : ¬(now.deadline? ttl.toNat).isSome := by
  cases existing with
  | none =>
    rw [Option.map_eq_none_iff.mp h]
    decide
  | some old => contradiction

variable {s : MemoryStore} {q : CounterQuery} {now : Instant}

/-- The reply of a call that is refused. -/
def refusal (s : MemoryStore) (q : CounterQuery) (now : Instant) (outcome : CounterOutcome) :
    CounterReply :=
  { outcome
    dailyCount := count s.counters q.dailyKey now
    minuteCount := count s.counters q.minuteKey now
    dailyTtl := (live s.counters q.dailyKey now).map (·.remainingSeconds now)
    minuteTtl := (live s.counters q.minuteKey now).map (·.remainingSeconds now) }

/-- The reply of a call that is counted, after which `daily` and `minute` stand in the store. -/
def receipt (now : Instant) (daily minute : Counter) : CounterReply :=
  { outcome := .incremented
    dailyCount := daily.value
    minuteCount := minute.value
    dailyTtl := some (daily.remainingSeconds now)
    minuteTtl := some (minute.remainingSeconds now) }

/-- The store after a call that is refused. -/
def purged (s : MemoryStore) (now : Instant) : MemoryStore :=
  { s with counters := purge s.counters now }

/-- The store after a call that is counted. -/
def counted (s : MemoryStore) (q : CounterQuery) (now : Instant) (daily minute : Counter) :
    MemoryStore :=
  { s with
    counters := ((purge s.counters now).insert q.dailyKey daily).insert q.minuteKey minute }

/-- A counted call sets its two counters and shows in no other. -/
theorem live_counted {daily minute : Counter} {later : Instant} (hle : now ≤ later) (key : String) :
    live (s.counted q now daily minute).counters key later =
      if q.minuteKey = key then (if minute.isLive later then some minute else none)
      else if q.dailyKey = key then (if daily.isLive later then some daily else none)
      else live s.counters key later := by
  rw [counted]
  split
  next hm =>
    subst hm
    exact live_insert_self _ _ _ _
  next hm =>
    rw [live_insert_of_ne _ _ _ hm]
    split
    next hd =>
      subst hd
      exact live_insert_self _ _ _ _
    next hd => rw [live_insert_of_ne _ _ _ hd, live_purge _ _ hle]

/-- A call of a store that serves, with the purge left out of what it reads. -/
theorem check_eq (h : s.Serving) : s.check q now =
    if q.dailyLimit ≤ count s.counters q.dailyKey now then
      (.ok (refusal s q now .dailyExceeded), s.purged now)
    else if q.minuteLimit ≤ count s.counters q.minuteKey now then
      (.ok (refusal s q now .minuteExceeded), s.purged now)
    else
      match bump (live s.counters q.dailyKey now) now q.dailyTtl,
        bump (live s.counters q.minuteKey now) now q.minuteTtl with
      | some daily, some minute => (.ok (receipt now daily minute), s.counted q now daily minute)
      | _, _ => (.error .deadlineOverflow, { s.purged now with poisoned := true }) := by
  obtain ⟨counters, available, poisoned⟩ := s
  obtain ⟨rfl, rfl⟩ := h
  have hle : now ≤ now := Nat.le_refl _
  simp only [check, live_purge _ _ hle, not_true_eq_false, Bool.false_eq_true, if_false]
  rfl

/-- The four ways in which a call ends: it is refused for the day or for the minute, it is counted, or
it breaks off for want of a deadline. -/
theorem check_endings (h : s.Serving) (q : CounterQuery) (now : Instant) :
    (q.dailyLimit ≤ count s.counters q.dailyKey now ∧
      s.check q now = (.ok (refusal s q now .dailyExceeded), s.purged now)) ∨
    (count s.counters q.dailyKey now < q.dailyLimit ∧
      q.minuteLimit ≤ count s.counters q.minuteKey now ∧
      s.check q now = (.ok (refusal s q now .minuteExceeded), s.purged now)) ∨
    (count s.counters q.dailyKey now < q.dailyLimit ∧
      count s.counters q.minuteKey now < q.minuteLimit ∧
      ∃ daily minute,
        bump (live s.counters q.dailyKey now) now q.dailyTtl = some daily ∧
        bump (live s.counters q.minuteKey now) now q.minuteTtl = some minute ∧
        s.check q now = (.ok (receipt now daily minute), s.counted q now daily minute)) ∨
    ((bump (live s.counters q.dailyKey now) now q.dailyTtl = none ∨
        bump (live s.counters q.minuteKey now) now q.minuteTtl = none) ∧
      s.check q now = (.error .deadlineOverflow, { s.purged now with poisoned := true })) := by
  rw [check_eq h]
  by_cases h1 : q.dailyLimit ≤ count s.counters q.dailyKey now
  · exact .inl ⟨h1, if_pos h1⟩
  · have d1 := UInt64.not_le.mp h1
    rw [if_neg h1]
    by_cases h2 : q.minuteLimit ≤ count s.counters q.minuteKey now
    · exact .inr (.inl ⟨d1, h2, if_pos h2⟩)
    · have d2 := UInt64.not_le.mp h2
      rw [if_neg h2]
      cases hdaily : bump (live s.counters q.dailyKey now) now q.dailyTtl with
      | none => exact .inr (.inr (.inr ⟨.inl rfl, rfl⟩))
      | some daily =>
        cases hminute : bump (live s.counters q.minuteKey now) now q.minuteTtl with
        | none => exact .inr (.inr (.inr ⟨.inr rfl, rfl⟩))
        | some minute => exact .inr (.inr (.inl ⟨d1, d2, daily, minute, rfl, rfl, rfl⟩))

/-- A call that breaks off would have set a deadline that the clock cannot represent. -/
theorem not_inRange_of_bump
    (h : bump (live s.counters q.dailyKey now) now q.dailyTtl = none ∨
      bump (live s.counters q.minuteKey now) now q.minuteTtl = none) : ¬ q.InRange now := by
  rintro ⟨hd, hm⟩
  rcases h with hnone | hnone
  · exact not_isSome_of_bump_eq_none hnone hd
  · exact not_isSome_of_bump_eq_none hnone hm

/-- The three ways in which a call ends whose deadlines the clock can represent. -/
theorem check_cases (h : s.Serving) (hd : (now.deadline? q.dailyTtl.toNat).isSome)
    (hm : (now.deadline? q.minuteTtl.toNat).isSome) :
    (q.dailyLimit ≤ count s.counters q.dailyKey now ∧
      s.check q now = (.ok (refusal s q now .dailyExceeded), s.purged now)) ∨
    (count s.counters q.dailyKey now < q.dailyLimit ∧
      q.minuteLimit ≤ count s.counters q.minuteKey now ∧
      s.check q now = (.ok (refusal s q now .minuteExceeded), s.purged now)) ∨
    (count s.counters q.dailyKey now < q.dailyLimit ∧
      count s.counters q.minuteKey now < q.minuteLimit ∧
      ∃ daily minute,
        bump (live s.counters q.dailyKey now) now q.dailyTtl = some daily ∧
        bump (live s.counters q.minuteKey now) now q.minuteTtl = some minute ∧
        s.check q now = (.ok (receipt now daily minute), s.counted q now daily minute)) := by
  rcases check_endings h q now with hdaily | hminute | hcounted | ⟨hnone, -⟩
  · exact .inl hdaily
  · exact .inr (.inl hminute)
  · exact .inr (.inr hcounted)
  · exact absurd ⟨hd, hm⟩ (not_inRange_of_bump hnone)

end MemoryStore

end TenantGateway.RateLimit
