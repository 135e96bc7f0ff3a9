import TenantGateway.RateLimit.Limiter
import TenantGateway.Proofs.RateLimit.Archive
import TenantGateway.Proofs.RateLimit.Keys
import Mathlib.Data.List.Perm.Subperm

/-! Purging cannot be noticed, and it keeps a store about as large as what lives in it. The bound
holds after every request that the store answers. One that finds it switched off removes nothing. -/
namespace TenantGateway.RateLimit
namespace MemoryStore

/-- The number of counters that have not lapsed. -/
def living (counters : Std.ExtTreeMap String Counter) (now : Instant) : Nat :=
  (counters.filter fun _ c => c.isLive now).size

/-- The store is no larger than the threshold or what lives in it, but for two counters. -/
def IsBounded (s : MemoryStore) (counters : Std.ExtTreeMap String Counter) (now : Instant) : Prop :=
  s.size ≤ max purgeThreshold (living counters now) + 2

/-- What purging comes to while a new store is used. -/
structure Discreet (accesses : List Access) : Prop where
  faithful : counting.answers .empty accesses = Archive.counting.answers .empty accesses
  /-- A request that is not counted could as well not have come. -/
  spared : ∀ before q now later, accesses = before ++ .request q now :: later → q.InRange now →
    ¬ IsCounted ((counting.after .empty before).check q now).1 →
    counting.answers ((counting.after .empty before).check q now).2 later =
      counting.answers (counting.after .empty before) later
  /-- What lives in the store is counted before the request and after it. -/
  bounded : ∀ before q now later, accesses = before ++ .request q now :: later →
    let s := counting.after .empty before
    let t := (s.check q now).2
    s.available = true → t.IsBounded s.counters now ∧ t.IsBounded t.counters now
  untouched : ∀ before q now later, accesses = before ++ .request q now :: later →
    let s := counting.after .empty before
    s.available = false → (s.check q now).2 = s

section Bound

variable {m m' : Std.ExtTreeMap String Counter} {c : Counter} {now : Instant} {s : MemoryStore}
  {q : CounterQuery}

private theorem size_le_size (h : ∀ key ∈ m, key ∈ m') : m.size ≤ m'.size := by
  rw [← Std.ExtTreeMap.length_keys, ← Std.ExtTreeMap.length_keys]
  exact (List.Nodup.subperm Std.ExtTreeMap.nodup_keys fun key hkey =>
    Std.ExtTreeMap.mem_keys.mpr (h key (Std.ExtTreeMap.mem_keys.mp hkey))).length_le

private theorem mem_living_iff {key : String} :
    key ∈ m.filter (fun _ c => c.isLive now) ↔ (live m key now).isSome := by
  rw [Std.ExtTreeMap.mem_iff_isSome_getElem?, Std.ExtTreeMap.getElem?_filter', live]

private theorem living_le (h : ∀ key, (live m key now).isSome → (live m' key now).isSome) :
    living m now ≤ living m' now :=
  size_le_size fun key hkey => mem_living_iff.mpr (h key (mem_living_iff.mp hkey))

private theorem size_purge_le (m : Std.ExtTreeMap String Counter) (now : Instant) :
    (purge m now).size ≤ max purgeThreshold (living m now) := by
  rw [purge]
  split
  · exact Nat.le_max_right _ _
  next hsmall => exact Nat.le_trans (Nat.not_lt.mp hsmall) (Nat.le_max_left _ _)

private theorem isLive_of_bump {existing : Option Counter} {ttl : UInt64}
    (hexisting : ∀ old ∈ existing, old.isLive now = true) (h : bump existing now ttl = some c)
    (hsome : existing.isSome) : c.isLive now = true := by
  obtain ⟨old, rfl⟩ := Option.isSome_iff_exists.mp hsome
  cases h
  exact hexisting old rfl

private theorem isLive_of_live {key : String} : ∀ old ∈ live m key now, old.isLive now = true :=
  fun _ hold => (Option.filter_eq_some_iff.mp hold).2

private theorem living_le_counted {daily minute : Counter}
    (hdaily : bump (live s.counters q.dailyKey now) now q.dailyTtl = some daily)
    (hminute : bump (live s.counters q.minuteKey now) now q.minuteTtl = some minute) :
    living s.counters now ≤ living (s.counted q now daily minute).counters now := by
  refine living_le fun key hkey => ?_
  rw [live_counted (Nat.le_refl _)]
  split
  next heq =>
    subst heq
    rw [if_pos (isLive_of_bump isLive_of_live hminute hkey)]
    rfl
  · split
    next heq =>
      subst heq
      rw [if_pos (isLive_of_bump isLive_of_live hdaily hkey)]
      rfl
    · exact hkey

private theorem counters_check (hs : s.Serving) (q : CounterQuery) (now : Instant) :
    (s.check q now).2.counters = purge s.counters now ∨ ∃ daily minute,
      bump (live s.counters q.dailyKey now) now q.dailyTtl = some daily ∧
      bump (live s.counters q.minuteKey now) now q.minuteTtl = some minute ∧
      (s.check q now).2.counters = (s.counted q now daily minute).counters := by
  rcases check_endings hs q now with
    ⟨-, he⟩ | ⟨-, -, he⟩ | ⟨-, -, daily, minute, hdaily, hminute, he⟩ | ⟨-, he⟩
  · exact .inl (by rw [he, purged])
  · exact .inl (by rw [he, purged])
  · exact .inr ⟨daily, minute, hdaily, hminute, by rw [he]⟩
  · exact .inl (by rw [he, purged])

private theorem living_le_check (hs : s.Serving) (q : CounterQuery) (now : Instant) :
    living s.counters now ≤ living (s.check q now).2.counters now := by
  rcases counters_check hs q now with he | ⟨daily, minute, hdaily, hminute, he⟩
  · rw [he]
    refine living_le fun key hkey => ?_
    rwa [live_purge s.counters key (Nat.le_refl now.nanos)]
  · rw [he]
    exact living_le_counted hdaily hminute

private theorem size_le_size_counters (s : MemoryStore) : s.size ≤ s.counters.size := by
  rw [size]
  split
  · exact Nat.zero_le _
  · exact Nat.le_refl _

private theorem size_check_le (hs : s.Serving) (q : CounterQuery) (now : Instant) :
    (s.check q now).2.size ≤ (purge s.counters now).size + 2 := by
  refine Nat.le_trans (size_le_size_counters _) ?_
  rcases counters_check hs q now with he | ⟨daily, minute, -, -, he⟩
  · rw [he]
    exact Nat.le_add_right _ _
  · rw [he, counted]
    exact Nat.le_trans Std.ExtTreeMap.size_insert_le
      (Nat.succ_le_succ Std.ExtTreeMap.size_insert_le)

private theorem check_of_poisoned (ha : s.available = true) (hp : s.poisoned = true) :
    (s.check q now).2 = s := by
  rw [check, if_neg (by rw [ha]; decide), if_pos hp]

private theorem isBounded_check (ha : s.available = true) (q : CounterQuery) (now : Instant) :
    (s.check q now).2.IsBounded s.counters now ∧
      (s.check q now).2.IsBounded (s.check q now).2.counters now := by
  cases hp : s.poisoned with
  | true =>
    have hnothing : s.size = 0 := if_pos hp
    rw [check_of_poisoned ha hp, IsBounded, hnothing]
    exact ⟨Nat.zero_le _, Nat.zero_le _⟩
  | false =>
    have hsize := size_check_le ⟨ha, hp⟩ q now
    have hpurge := size_purge_le s.counters now
    have hliving := living_le_check ⟨ha, hp⟩ q now
    rw [IsBounded, IsBounded]
    omega

end Bound

section Crowd

-- The first request of one of many organizations, at the start of 1970.
private def newcomer (i : Nat) : CounterQuery :=
  Limiter.query ⟨.failOpen, .ofMillis 100, 120⟩ ("org" ++ toString i) ⟨1, 1, 0⟩ .epoch

-- The first requests of as many organizations.
private def crowd (n : Nat) : List Access :=
  (List.range n).map fun i => .request (newcomer i) .start

-- When the counters of the first day have lapsed.
private def dayAfter : Instant := Instant.start + Duration.ofSeconds 86400

-- Two counters for each organization, which live now and will have lapsed a day later.
private structure Crowded (s : MemoryStore) (n : Nat) : Prop where
  serving : s.Serving
  size : s.counters.size = 2 * n
  named : ∀ (key : String) (c : Counter), s.counters[key]? = some c →
    ∃ i < n, key = (newcomer i).dailyKey ∨ key = (newcomer i).minuteKey
  living : ∀ (key : String) (c : Counter), s.counters[key]? = some c → c.isLive .start = true
  lapsing : ∀ (key : String) (c : Counter), s.counters[key]? = some c → c.isLive dayAfter = false

variable {s : MemoryStore} {n : Nat}

private theorem Crowded.size_store (h : Crowded s n) : s.size = 2 * n :=
  (if_neg (by rw [h.serving.sound]; decide)).trans h.size

private theorem purge_eq_self {m : Std.ExtTreeMap String Counter} {now : Instant}
    (h : ∀ (key : String) (c : Counter), m[key]? = some c → c.isLive now = true) :
    purge m now = m := by
  rw [purge]
  split
  · refine Std.ExtTreeMap.ext_getElem? fun key => ?_
    rw [Std.ExtTreeMap.getElem?_filter']
    cases hkey : m[key]? with
    | none => rfl
    | some c => rw [Option.filter_some, if_pos (h key c hkey)]
  · rfl

private theorem family_injective {i j : Nat} (h : "org" ++ toString i = "org" ++ toString j) :
    i = j := by
  have hlists := congrArg String.toList h
  rw [String.toList_append, String.toList_append] at hlists
  have hdigits := List.append_cancel_left hlists
  exact Text.toDigits_injective (by simpa [toString, Nat.toList_repr] using hdigits)

private theorem Crowded.getElem?_eq_none (h : Crowded s n) {key : String}
    (hkey : ∀ i < n, key ≠ (newcomer i).dailyKey ∧ key ≠ (newcomer i).minuteKey) :
    s.counters[key]? = none := by
  refine Option.eq_none_iff_forall_ne_some.mpr fun c hc => ?_
  obtain ⟨i, hi, hname | hname⟩ := h.named key c hc
  · exact (hkey i hi).1 hname
  · exact (hkey i hi).2 hname

private theorem Crowded.unused (h : Crowded s n) :
    s.counters[(newcomer n).dailyKey]? = none ∧ s.counters[(newcomer n).minuteKey]? = none := by
  constructor
  · refine h.getElem?_eq_none fun i hi => ⟨fun hday => ?_, dailyKey_ne_minuteKey _ _ _ _⟩
    exact absurd (family_injective (dailyKey_inj.mp hday).1) (Nat.ne_of_gt hi)
  · refine h.getElem?_eq_none fun i hi => ⟨(dailyKey_ne_minuteKey _ _ _ _).symm, fun hmin => ?_⟩
    exact absurd (family_injective (minuteKey_inj.mp hmin).1) (Nat.ne_of_gt hi)

private theorem getElem?_counted {key : String} {c daily minute : Counter} {q : CounterQuery}
    {now : Instant} (h : (s.counted q now daily minute).counters[key]? = some c) :
    (key = q.minuteKey ∧ c = minute) ∨ (key = q.dailyKey ∧ c = daily) ∨
      (purge s.counters now)[key]? = some c := by
  rw [counted, Std.ExtTreeMap.getElem?_insert, Std.ExtTreeMap.getElem?_insert] at h
  split at h
  next heq => exact .inl ⟨(Std.compare_eq_iff_eq.mp heq).symm, (Option.some.inj h).symm⟩
  · split at h
    next heq => exact .inr (.inl ⟨(Std.compare_eq_iff_eq.mp heq).symm, (Option.some.inj h).symm⟩)
    · exact .inr (.inr h)

-- The counters that a newcomer gets.
private def firstDaily : Counter := ⟨1, dayAfter⟩
private def firstMinute : Counter := ⟨1, Instant.start + Duration.ofSeconds 120⟩

private theorem newcomer_asks (i : Nat) :
    (newcomer i).dailyLimit = 1 ∧ (newcomer i).minuteLimit = 1 ∧
      (newcomer i).dailyTtl = 86400 ∧ (newcomer i).minuteTtl = 120 := by
  refine ⟨rfl, ?_, ?_, rfl⟩
  · change Quota.addCapped 1 0 = 1
    decide
  · change secondsUntilMidnight .epoch = 86400
    decide

private theorem Crowded.check_eq (h : Crowded s n) :
    (s.check (newcomer n) .start).2 = s.counted (newcomer n) .start firstDaily firstMinute := by
  obtain ⟨hday, hmin⟩ := h.unused
  have hnoDay : live s.counters (newcomer n).dailyKey .start = none := by rw [live, hday]; rfl
  have hnoMin : live s.counters (newcomer n).minuteKey .start = none := by rw [live, hmin]; rfl
  obtain ⟨hdayLimit, hminLimit, hdayTtl, hminTtl⟩ := newcomer_asks n
  rw [MemoryStore.check_eq h.serving, count, count, hnoDay, hnoMin, hdayLimit, hminLimit, hdayTtl,
    hminTtl, if_neg (by decide), if_neg (by decide)]
  rfl

private theorem Crowded.size_counted (h : Crowded s n) :
    (s.counted (newcomer n) .start firstDaily firstMinute).counters.size = 2 * (n + 1) := by
  obtain ⟨hday, hmin⟩ := h.unused
  have hkeys : (newcomer n).dailyKey ≠ (newcomer n).minuteKey := dailyKey_ne_minuteKey _ _ _ _
  rw [counted, purge_eq_self h.living, Std.ExtTreeMap.size_insert, Std.ExtTreeMap.size_insert,
    Std.ExtTreeMap.contains_insert, Std.ExtTreeMap.contains_eq_isSome_getElem?, hmin,
    Std.ExtTreeMap.contains_eq_isSome_getElem?, hday, h.size]
  simp [hkeys]
  omega

private theorem Crowded.check (h : Crowded s n) :
    Crowded (s.check (newcomer n) .start).2 (n + 1) := by
  have hcases : ∀ (key : String) (c : Counter),
      (s.counted (newcomer n) .start firstDaily firstMinute).counters[key]? = some c →
        (key = (newcomer n).minuteKey ∧ c = firstMinute) ∨
          (key = (newcomer n).dailyKey ∧ c = firstDaily) ∨ s.counters[key]? = some c := by
    intro key c hkey
    have hcounted := getElem?_counted hkey
    rwa [purge_eq_self h.living] at hcounted
  rw [h.check_eq]
  exact {
    serving := ⟨h.serving.available, h.serving.sound⟩
    size := h.size_counted
    named := by
      intro key c hkey
      rcases hcases key c hkey with ⟨rfl, -⟩ | ⟨rfl, -⟩ | hold
      · exact ⟨n, Nat.lt_succ_self n, .inr rfl⟩
      · exact ⟨n, Nat.lt_succ_self n, .inl rfl⟩
      · obtain ⟨i, hi, hname⟩ := h.named key c hold
        exact ⟨i, Nat.lt_succ_of_lt hi, hname⟩
    living := by
      intro key c hkey
      rcases hcases key c hkey with ⟨-, rfl⟩ | ⟨-, rfl⟩ | hold
      · decide
      · decide
      · exact h.living key c hold
    lapsing := by
      intro key c hkey
      rcases hcases key c hkey with ⟨-, rfl⟩ | ⟨-, rfl⟩ | hold
      · decide
      · decide
      · exact h.lapsing key c hold }

private theorem crowded_after (n : Nat) : Crowded (counting.after .empty (crowd n)) n := by
  induction n with
  | zero =>
    exact {
      serving := serving_empty
      size := rfl
      named := fun key c h => by simp [counting, Counting.after, crowd, empty] at h
      living := fun key c h => by simp [Counting.after, crowd, empty] at h
      lapsing := fun key c h => by simp [Counting.after, crowd, empty] at h }
  | succ n ih =>
    have hnext : counting.after .empty (crowd (n + 1)) =
        ((counting.after .empty (crowd n)).check (newcomer n) .start).2 := by
      rw [crowd, List.range_succ, List.map_append, Counting.after, List.foldl_append]
      rfl
    rw [hnext]
    exact ih.check

private theorem living_dayAfter (h : Crowded s n) : MemoryStore.living s.counters dayAfter = 0 := by
  have hnone : MemoryStore.living s.counters dayAfter ≤
      (∅ : Std.ExtTreeMap String Counter).size := by
    refine size_le_size fun key hkey => ?_
    obtain ⟨c, hc⟩ := Option.isSome_iff_exists.mp (mem_living_iff.mp hkey)
    obtain ⟨hentry, hlive⟩ := Option.filter_eq_some_iff.mp hc
    rw [h.lapsing key c hentry] at hlive
    contradiction
  exact Nat.le_zero.mp hnone

private theorem inRange_newcomer (i : Nat) :
    (newcomer i).InRange .start ∧ (newcomer i).InRange dayAfter := by
  obtain ⟨-, -, hdayTtl, hminTtl⟩ := newcomer_asks i
  rw [CounterQuery.InRange, CounterQuery.InRange, hdayTtl, hminTtl]
  decide

-- A crowd comes, the store is switched off, and the first one comes again a day later.
private def crowdedOut (n : Nat) : List Access :=
  crowd n ++ [.switch false] ++ [.request (newcomer 0) dayAfter]

private theorem instant_of_mem_crowd {t : Instant}
    (h : t ∈ (crowd n).filterMap Access.instant?) : t = .start := by
  simp only [crowd, List.mem_filterMap, List.mem_map] at h
  obtain ⟨-, ⟨i, -, rfl⟩, ht⟩ := h
  exact (Option.some.inj ht).symm

private theorem inOrder_crowd_append (n : Nat) {later : List Access} (h : InOrder later) :
    InOrder (crowd n ++ later) := by
  rw [InOrder, List.filterMap_append, List.pairwise_append]
  refine ⟨List.pairwise_of_forall_mem_list fun t ht u hu => ?_, h, fun t ht u _ => ?_⟩
  · rw [instant_of_mem_crowd ht, instant_of_mem_crowd hu]
    exact Nat.le_refl _
  · rw [instant_of_mem_crowd ht]
    exact Nat.zero_le _

private theorem inOrder_crowdedOut (n : Nat) : InOrder (crowdedOut n) := by
  rw [crowdedOut, List.append_assoc]
  exact inOrder_crowd_append n (by decide)

private theorem inRange_crowdedOut {q : CounterQuery} {now : Instant}
    (h : .request q now ∈ crowdedOut n) : q.InRange now := by
  simp only [crowdedOut, crowd, List.mem_append, List.mem_map, List.mem_singleton, reduceCtorEq,
    or_false] at h
  rcases h with ⟨i, -, h⟩ | h
  · cases h
    exact (inRange_newcomer i).1
  · cases h
    exact (inRange_newcomer 0).2

private theorem check_crowdedOut (n : Nat) :
    ((counting.after .empty (crowd n ++ [.switch false])).check (newcomer 0) dayAfter).2 =
      { counting.after .empty (crowd n) with available := false } := by
  rw [Counting.after, List.foldl_append]
  rfl

private theorem not_isBounded_crowdedOut (h : purgeThreshold + 2 < 2 * n) :
    ¬ ((counting.after .empty (crowd n ++ [.switch false])).check (newcomer 0) dayAfter).2.IsBounded
      ((counting.after .empty (crowd n ++ [.switch false])).check (newcomer 0) dayAfter).2.counters
      dayAfter := by
  have hcrowd := crowded_after n
  have hsize : MemoryStore.size { counting.after .empty (crowd n) with available := false } =
      2 * n := hcrowd.size_store
  rw [check_crowdedOut, IsBounded, hsize, living_dayAfter hcrowd]
  omega

-- A crowd comes, the second one comes while the store is switched off, and a day passes.
private def overnight (n : Nat) : List Access :=
  crowd n ++ [.switch false, .request (newcomer 1) dayAfter, .switch true]

-- A crowd comes, and a day later the first one comes twice and is counted once.
private def twoDays (n : Nat) : List Access :=
  overnight n ++ [.request (newcomer 0) dayAfter, .request (newcomer 0) dayAfter,
    .read (newcomer 0).dailyKey dayAfter]

private theorem inOrder_twoDays (n : Nat) : InOrder (twoDays n) := by
  rw [twoDays, overnight, List.append_assoc]
  exact inOrder_crowd_append n (by decide)

private theorem crowded_overnight (n : Nat) : Crowded (counting.after .empty (overnight n)) n := by
  have hcrowd := crowded_after n
  have hafter : counting.after .empty (overnight n) =
      { counting.after .empty (crowd n) with available := true } := by
    rw [overnight, Counting.after, List.foldl_append]
    rfl
  rw [hafter]
  exact { hcrowd with serving := ⟨rfl, hcrowd.serving.sound⟩ }

private theorem size_after_overnight (h : purgeThreshold < 2 * n) :
    (counting.after .empty (overnight n)).size = 2 * n ∧
      (counting.after .empty (overnight n ++ [.request (newcomer 0) dayAfter])).size ≤ 2 := by
  have hcrowd := crowded_overnight n
  have hpurged : (purge (counting.after .empty (overnight n)).counters dayAfter).size = 0 := by
    rw [purge, if_pos (hcrowd.size ▸ h)]
    exact living_dayAfter hcrowd
  have hnext := size_check_le hcrowd.serving (newcomer 0) dayAfter
  rw [hpurged] at hnext
  refine ⟨hcrowd.size_store, ?_⟩
  rw [Counting.after, List.foldl_append]
  exact hnext

end Crowd

/-- In an order of time, no answer tells whether and when a store has purged, and the store does not
outgrow what lives in it. -/
theorem discreet_of_inOrder {accesses : List Access} (h : InOrder accesses) :
    Discreet accesses := by
  have hstart : Upcoming .start accesses := ⟨fun _ _ => Nat.zero_le _, h⟩
  exact {
    faithful := Mirrors.empty.answers_eq hstart
    spared := by
      rintro before q now later rfl hrange hcounted
      obtain ⟨time, hmirrors, hupcoming⟩ := Mirrors.empty.after hstart
      have hnow := hmirrors.mono (hupcoming.head now rfl)
      obtain ⟨hreply, hafter⟩ := hnow.check q
      rw [hreply] at hcounted
      rw [Archive.check_of_not_isCounted hrange hcounted] at hafter
      rw [hafter.answers_eq hupcoming.tail, hnow.answers_eq hupcoming.tail]
    bounded := fun _ q now _ _ havailable => isBounded_check havailable q now
    untouched := fun _ _ _ _ _ hoff => by
      rw [check, hoff]
      rfl }

/-- Of the counters of 5001 organizations none is left on the next day, and nobody can tell. -/
theorem discreet_of_inOrder_twoDays :
    InOrder (twoDays 5001) ∧
      ((counting.after .empty (overnight 5001)).size = 10002 ∧
        (counting.after .empty (overnight 5001 ++ [.request (newcomer 0) dayAfter])).size ≤ 2) ∧
      Discreet (twoDays 5001) :=
  ⟨inOrder_twoDays 5001, size_after_overnight (by decide),
    discreet_of_inOrder (inOrder_twoDays 5001)⟩

/-- A store that is switched off keeps the counters that have lapsed, however many there are. -/
theorem not_isBounded_when_unavailable :
    ¬ ∀ accesses, InOrder accesses → (∀ q now, .request q now ∈ accesses → q.InRange now) →
      ∀ before q now later, accesses = before ++ .request q now :: later →
        ((counting.after .empty before).check q now).2.IsBounded
          ((counting.after .empty before).check q now).2.counters now := by
  intro h
  have hcrowd (n : Nat) := h (crowdedOut n) (inOrder_crowdedOut n) (fun _ _ => inRange_crowdedOut)
    (crowd n ++ [.switch false]) (newcomer 0) dayAfter [] rfl
  exact not_isBounded_crowdedOut (by decide) (hcrowd 5002)

end MemoryStore
end TenantGateway.RateLimit
