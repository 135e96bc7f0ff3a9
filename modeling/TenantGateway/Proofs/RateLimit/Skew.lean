import TenantGateway.Proofs.RateLimit.Visits
import Mathlib.Data.Finset.Card

/-! Quotas when the gateways' clocks disagree. A minute's counter lives long enough for the slowest
clock, so that a minute's limit always holds. A day's counter ends when the day does on the clock of
the gateway that made it, and a gateway whose clock is behind then starts another one: the day's limit
holds until the first clock reaches the end of the day, and in all once for each different clock. -/
namespace TenantGateway.RateLimit
open MemoryStore

/-- The end of a day, in nanoseconds of Unix time. -/
def dayEnd (day : Int) : Int := (day + 1) * 86400000000000

namespace Call

variable {o : String} {day : Int} {c : Call}

/-- How many nanoseconds the wall clock is ahead of the clock of the store, where zero is 1970. -/
def offset (c : Call) : Int := c.time.unixNanos - c.instant.nanos

/-- By the clock of its gateway, a call comes before the end of its day. -/
theorem unix_lt_dayEnd (h : c.isOn o day = true) : c.instant.nanos + c.offset < dayEnd day := by
  obtain ⟨-, hday⟩ := isOn_iff.mp h
  simp only [Calendar.Timestamp.dayNumber] at hday
  simp only [offset, dayEnd, Calendar.Timestamp.unixNanos]
  omega

/-- A day's counter lives to the end of the day on the clock of the gateway that makes it. -/
theorem dayEnd_le_deadline (l : Limiter) (h : c.isOn o day = true) :
    dayEnd day ≤
      (c.instant + Duration.ofSeconds (l.lifetime c .daily).toNat).nanos + c.offset := by
  obtain ⟨-, hday⟩ := isOn_iff.mp h
  have hleft := toNat_secondsUntilMidnight c.time
  rw [hday] at hleft
  simp only [offset, dayEnd, Calendar.Timestamp.unixNanos, Instant.nanos_add, Duration.ofSeconds,
    Limiter.lifetime]
  omega

end Call

/-- How the allowed calls of a day spread over its counters. A counter goes by the clock offset of the
gateway that made it: those in `lapsed` have come to their ends, and `current` is the counter since. -/
structure Ledger (o : String) (day : Int) (limit : Nat) (clocks : Finset Int) (now : Instant)
    (s : MemoryStore) (spent : Nat) (lapsed : Finset Int) (current : Option (Counter × Int)) :
    Prop where
  ended : ∀ g ∈ lapsed, g ∈ clocks ∧ dayEnd day ≤ now.nanos + g
  shown : ∀ c : Call, c.isOn o day = true → ∀ later, now ≤ later →
    live s.counters (c.key .daily) later = (current.map Prod.fst).filter (·.isLive later)
  counter : ∀ c g, current = some (c, g) →
    g ∈ clocks ∧ g ∉ lapsed ∧ c.value.toNat ≤ limit ∧ dayEnd day ≤ c.expiresAt.nanos + g
  spent_le : spent ≤ current.elim 0 (·.1.value.toNat) + limit * lapsed.card

namespace Ledger

variable {o : String} {day : Int} {limit : Nat} {clocks : Finset Int} {now later : Instant}
  {s t : MemoryStore} {spent : Nat} {lapsed : Finset Int} {current : Option (Counter × Int)}

private theorem spent_le_of_lapsed_empty (h : Ledger o day limit clocks now s spent ∅ current) :
    spent ≤ limit := by
  have hle := h.spent_le
  rw [Finset.card_empty, Nat.mul_zero, Nat.add_zero] at hle
  cases current with
  | none => exact Nat.le_trans hle (Nat.zero_le _)
  | some x => exact Nat.le_trans hle (h.counter x.1 x.2 rfl).2.2.1

/-- Each counter belongs to another clock. -/
theorem spent_le_mul_card (h : Ledger o day limit clocks now s spent lapsed current) :
    spent ≤ limit * clocks.card := by
  have hle := h.spent_le
  have hsub : lapsed ⊆ clocks := fun g hg => (h.ended g hg).1
  cases current with
  | none =>
    exact Nat.le_trans hle
      ((Nat.zero_add _).symm ▸ Nat.mul_le_mul_left limit (Finset.card_le_card hsub))
  | some x =>
    obtain ⟨hclock, hnew, hvalue, -⟩ := h.counter x.1 x.2 rfl
    have hcard := Finset.card_le_card (Finset.insert_subset hclock hsub)
    rw [Finset.card_insert_of_notMem hnew] at hcard
    calc
      spent ≤ x.1.value.toNat + limit * lapsed.card := hle
      _ ≤ limit + limit * lapsed.card := Nat.add_le_add_right hvalue _
      _ = limit * (lapsed.card + 1) := by rw [Nat.mul_succ, Nat.add_comm]
      _ ≤ limit * clocks.card := Nat.mul_le_mul_left limit hcard

private theorem mono (h : Ledger o day limit clocks now s spent lapsed current) {more : Finset Int}
    (hsub : clocks ⊆ more) : Ledger o day limit more now s spent lapsed current where
  ended := fun g hg => ⟨hsub (h.ended g hg).1, (h.ended g hg).2⟩
  shown := h.shown
  counter := fun c g hc => ⟨hsub (h.counter c g hc).1, (h.counter c g hc).2⟩
  spent_le := h.spent_le

/-- A store that shows the day's counters as before. -/
theorem moved (h : Ledger o day limit clocks now s spent lapsed current)
    (hlive : ∀ c : Call, c.isOn o day = true → ∀ later, now ≤ later →
      live t.counters (c.key .daily) later = live s.counters (c.key .daily) later) :
    Ledger o day limit clocks now t spent lapsed current where
  ended := h.ended
  shown := fun c hc later hle => (hlive c hc later hle).trans (h.shown c hc later hle)
  counter := h.counter
  spent_le := h.spent_le

/-- As time passes, the current counter lapses or lives on. -/
theorem advance (h : Ledger o day limit clocks now s spent lapsed current) (hle : now ≤ later) :
    ∃ lapsed current, Ledger o day limit clocks later s spent lapsed current ∧
      ∀ c g, current = some (c, g) → c.isLive later = true := by
  have hended : ∀ g ∈ lapsed, g ∈ clocks ∧ dayEnd day ≤ later.nanos + g := by
    intro g hg
    obtain ⟨hclock, hend⟩ := h.ended g hg
    rw [Instant.le_def] at hle
    exact ⟨hclock, by omega⟩
  have hshown : ∀ c : Call, c.isOn o day = true → ∀ time, later ≤ time →
      live s.counters (c.key .daily) time = (current.map Prod.fst).filter (·.isLive time) :=
    fun c hc time ht => h.shown c hc time (Nat.le_trans hle ht)
  cases current with
  | none =>
    refine ⟨lapsed, none, ⟨hended, hshown, h.counter, h.spent_le⟩, ?_⟩
    intro c g hc
    cases hc
  | some x =>
    obtain ⟨c, g⟩ := x
    by_cases hlive : c.isLive later = true
    · refine ⟨lapsed, some (c, g), ⟨hended, hshown, h.counter, h.spent_le⟩, ?_⟩
      intro c' g' hc
      cases hc
      exact hlive
    · obtain ⟨hclock, hnew, hvalue, hdead⟩ := h.counter c g rfl
      have hpast : c.expiresAt.nanos ≤ later.nanos := by
        simpa only [Counter.isLive, Instant.lt_def, decide_eq_true_eq, Nat.not_lt] using hlive
      refine ⟨insert g lapsed, none, ⟨?_, ?_, ?_, ?_⟩, ?_⟩
      · intro p hp
        rcases Finset.mem_insert.mp hp with rfl | hp
        · exact ⟨hclock, by omega⟩
        · exact hended p hp
      · intro e he time ht
        have hgone : ¬c.isLive time = true := fun hl => hlive (isLive_of_le ht hl)
        rw [hshown e he time ht]
        simp only [Option.map_some, Option.map_none, Option.filter_some, if_neg hgone,
          Option.filter_none]
      · intro c' g' hc
        cases hc
      · have hspent := h.spent_le
        rw [Finset.card_insert_of_notMem hnew, Nat.mul_succ]
        simp only [Option.elim_some, Option.elim_none] at hspent ⊢
        omega
      · intro c' g' hc
        cases hc

private theorem counted {l : Limiter} {c : Call} {daily minute : Counter} {g : Int}
    (hon : c.isOn o day = true) (hended : ∀ g ∈ lapsed, g ∈ clocks ∧ dayEnd day ≤ c.instant.nanos + g)
    (hclock : g ∈ clocks) (hnew : g ∉ lapsed) (hvalue : daily.value.toNat ≤ limit)
    (hlife : dayEnd day ≤ daily.expiresAt.nanos + g)
    (hspent : spent ≤ daily.value.toNat + limit * lapsed.card) :
    Ledger o day limit clocks c.instant
      (s.counted (l.query c.organization c.quota c.time) c.instant daily minute) spent lapsed
      (some (daily, g)) where
  ended := hended
  shown := by
    intro e he later hle
    have hday : c.key .daily = e.key .daily :=
      Call.key_eq_iff.mpr ((Call.isOn_iff_shares he c).mp hon)
    rw [live_counted_daily l c e daily minute hle, if_pos hday, Option.map_some, Option.filter_some]
  counter := by
    intro c' g' hc
    cases hc
    exact ⟨hclock, hnew, hvalue, hlife⟩
  spent_le := hspent

/-- A call keeps the ledger, and an allowed one on the day is entered. -/
theorem call (h : Ledger o day limit clocks now s spent lapsed current) (hs : s.Serving)
    (l : Limiter) {c : Call} (hr : l.InRange c) (hle : now ≤ c.instant)
    (hclock : c.isOn o day = true → c.offset ∈ clocks)
    (hlimit : c.isOn o day = true → c.limit .daily = limit) :
    ∃ lapsed current, Ledger o day limit clocks c.instant (l.call s c).2
      (spent + if (l.call s c).1.isAllowed = true ∧ c.isOn o day = true then 1 else 0)
      lapsed current := by
  obtain ⟨lapsed, current, hnow, hlive⟩ := h.advance hle
  obtain ⟨d, hd, hf, ⟨ha, he⟩ | ⟨ha, daily, minute, he, hnext⟩⟩ := l.call_cases hs hr
  · refine ⟨lapsed, current, ?_⟩
    have hrefused : ¬((l.call s c).1.isAllowed = true ∧ c.isOn o day = true) := by
      rw [hd, Limiter.Outcome.isAllowed, ha]
      rintro ⟨hfalse, -⟩
      contradiction
    rw [he, if_neg hrefused, Nat.add_zero]
    exact hnow.moved fun e _ later hlater => live_purge _ _ hlater
  · by_cases hon : c.isOn o day = true
    · have hallowed : (l.call s c).1.isAllowed = true ∧ c.isOn o day = true := by
        rw [hd]
        exact ⟨ha, hon⟩
      have hroom := hf.lt_limit ha .daily
      have hread := hnow.shown c hon c.instant (Nat.le_refl _)
      have hspent := hnow.spent_le
      obtain ⟨hvalue, hexpires⟩ := hnext .daily
      simp only [LimitType.pick] at hvalue hexpires
      rw [hlimit hon] at hroom
      rw [he, if_pos hallowed]
      cases current with
      | none =>
        -- The caller's clock makes a counter; the clocks of all earlier ones are past the day.
        rw [count, hread] at hvalue
        rw [hread] at hexpires
        have hnew : c.offset ∉ lapsed := by
          intro hold
          exact Int.not_le.mpr (Call.unix_lt_dayEnd hon) (hnow.ended _ hold).2
        have hone : daily.value.toNat = 1 := hvalue
        refine ⟨lapsed, _, counted hon hnow.ended (hclock hon) hnew ?_ ?_ ?_⟩
        · omega
        · rw [hexpires]
          exact Call.dayEnd_le_deadline l hon
        · simp only [Option.elim_none] at hspent
          omega
      | some x =>
        obtain ⟨old, g⟩ := x
        obtain ⟨hold, hnew, -, hlife⟩ := hnow.counter old g rfl
        rw [Option.map_some, Option.filter_some, if_pos (hlive old g rfl)] at hread
        rw [count, hread] at hvalue hroom
        rw [hread] at hexpires
        have hmore : daily.value.toNat = old.value.toNat + 1 := hvalue
        have hsame : daily.expiresAt = old.expiresAt := hexpires
        refine ⟨lapsed, _, counted hon hnow.ended hold hnew ?_ ?_ ?_⟩
        · rw [hmore]
          exact hroom
        · rw [hsame]
          exact hlife
        · simp only [Option.elim_some] at hspent
          omega
    · refine ⟨lapsed, current, ?_⟩
      rw [he, if_neg fun hboth => hon hboth.2, Nat.add_zero]
      refine hnow.moved fun e heon later hlater => ?_
      have hday : c.key .daily ≠ e.key .daily := fun hkey =>
        hon ((Call.isOn_iff_shares heon c).mpr (Call.key_eq_iff.mp hkey))
      rw [live_counted_daily l c e daily minute hlater, if_neg hday]

end Ledger

/-- No clock of the visits has reached the end of the day when the call is made. -/
def Call.isBeforeEnd (day : Int) (visits : List Visit) (c : Call) : Bool :=
  visits.all fun v => c.instant.nanos + v.offset < dayEnd day

namespace Visit

/-- The different clocks of the visits for an organization on a day. -/
def clocks (o : String) (day : Int) (visits : List Visit) : Finset Int :=
  ((visits.filter (·.isOn o day)).map (·.offset)).toFinset

private theorem mem_clocks {o : String} {day : Int} {visits : List Visit} {g : Int} :
    g ∈ clocks o day visits ↔ ∃ v ∈ visits, v.isOn o day = true ∧ v.offset = g := by
  simp only [clocks, List.mem_toFinset, List.mem_map, List.mem_filter, and_assoc]

/-- Visits by clocks that differ by `skew` at most, with minute counters that live for a minute and as
much longer. -/
structure Skewed (skew : Duration) (visits : List Visit) : Prop extends Regular visits where
  offsets : ∀ v ∈ visits, ∀ e ∈ visits, v.offset ≤ e.offset + skew.nanos
  lifetime : ∀ v ∈ visits,
    Duration.ofSeconds 60 + skew ≤ Duration.ofSeconds v.limiter.minuteTtl.toNat

/-- How many requests of an organization with one quota are allowed when clocks differ. -/
structure Bounded (o : String) (q : Quota) (visits : List Visit) : Prop where
  minute : ∀ k, (admitted visits).countP (Call.isIn o k) ≤ q.minuteCeiling.toNat
  day : ∀ day, (admitted visits).countP (fun c => c.isOn o day && c.isBeforeEnd day visits) ≤
    q.requestsPerDay.toNat
  /-- Once for each different clock. -/
  wholeDay : ∀ day, (admitted visits).countP (Call.isOn o day) ≤
    q.requestsPerDay.toNat * (clocks o day visits).card

variable {visits past : List Visit} {v : Visit} {o : String} {q : Quota} {day : Int}

/-- The ledger of a run. -/
theorem ledger_run (hreg : Regular visits)
    (hq : ∀ v ∈ visits, v.isOn o day = true → v.quota = q) {now : Instant}
    (hn : ∀ v ∈ visits, v.instant ≤ now) :
    ∃ lapsed current, Ledger o day q.requestsPerDay.toNat (clocks o day visits) now
      (run visits).store ((admitted visits).countP (Call.isOn o day)) lapsed current := by
  induction visits using List.reverseRecOn generalizing now with
  | nil =>
    refine ⟨∅, none, ?_, ?_, ?_, Nat.zero_le _⟩
    · intro g hg
      exact absurd hg (Finset.notMem_empty g)
    · intro c _ later _
      simp only [run, List.foldl_nil, live, MemoryStore.empty, Std.ExtTreeMap.getElem?_empty,
        Option.filter_none, Option.map_none]
    · intro c g hc
      cases hc
  | append_singleton past v ih =>
    have hin : ∀ e ∈ past, e ∈ past ++ [v] := fun e he => List.mem_append_left _ he
    have hlast : v ∈ past ++ [v] := List.mem_append_right _ (List.mem_singleton_self v)
    obtain ⟨lapsed, current, h⟩ := ih hreg.left (fun e he => hq e (hin e he))
      fun e he => hreg.le_last e (hin e he)
    have hsub : clocks o day past ⊆ clocks o day (past ++ [v]) := by
      intro g hg
      obtain ⟨e, he, hmem⟩ := mem_clocks.mp hg
      exact mem_clocks.mpr ⟨e, hin e he, hmem⟩
    have hclock : v.isOn o day = true → v.offset ∈ clocks o day (past ++ [v]) :=
      fun hon => mem_clocks.mpr ⟨v, hlast, hon, rfl⟩
    have hlimit : v.isOn o day = true → v.limit .daily = q.requestsPerDay.toNat := by
      intro hon
      rw [Call.limit, hq v hlast hon]
    obtain ⟨lapsed, current, h⟩ := (h.mono hsub).call hreg.left.serving v.limiter hreg.last
      (Nat.le_refl _) hclock hlimit
    obtain ⟨lapsed, current, h, -⟩ := h.advance (hn v hlast)
    rw [store_snoc, countP_admitted_snoc]
    exact ⟨lapsed, current, h⟩

/-- Before the first clock reaches the end of the day, no counter of the day has come to its end. -/
theorem countP_before_le {all : List Visit} (hall : visits ⊆ all) (hreg : Regular visits)
    (hq : ∀ v ∈ visits, v.isOn o day = true → v.quota = q) :
    (admitted visits).countP (fun c => c.isOn o day && c.isBeforeEnd day all) ≤
      q.requestsPerDay.toNat := by
  induction visits using List.reverseRecOn with
  | nil => exact Nat.zero_le _
  | append_singleton past v ih =>
    have hin : ∀ e ∈ past, e ∈ past ++ [v] := fun e he => List.mem_append_left _ he
    by_cases hv : v.isBeforeEnd day all = true
    · obtain ⟨lapsed, current, h⟩ := ledger_run hreg hq hreg.le_last
      have hempty : lapsed = ∅ := by
        refine Finset.eq_empty_of_forall_notMem fun g hg => ?_
        obtain ⟨hclock, hend⟩ := h.ended g hg
        obtain ⟨e, he, -, rfl⟩ := mem_clocks.mp hclock
        have hbefore := of_decide_eq_true (List.all_eq_true.mp hv e (hall he))
        omega
      subst hempty
      refine Nat.le_trans (List.countP_mono_left fun c _ hc => ?_) h.spent_le_of_lapsed_empty
      exact (Bool.and_eq_true_iff.mp hc).1
    · rw [countP_admitted_snoc, if_neg, Nat.add_zero]
      · exact ih (fun e he => hall (hin e he)) hreg.left fun e he => hq e (hin e he)
      · rintro ⟨-, hboth⟩
        exact hv (Bool.and_eq_true_iff.mp hboth).2

/-- A minute's counter outlives its minute on every clock. -/
theorem Skewed.outlives {skew : Duration} (h : Skewed skew visits) (hv : v ∈ visits) :
    v.limiter.Outlives (fun c => ∃ e ∈ visits, e.toCall = c) .minute := by
  rintro e c ⟨e, he, rfl⟩ ⟨c, hc, rfl⟩ hs -
  have hoffset := h.offsets e he c hc
  have hlife := h.lifetime v hv
  have hmin := hs.2
  simp only [epochMinute] at hmin
  simp only [Call.offset, Calendar.Timestamp.unixNanos] at hoffset
  simp only [Duration.le_def, Duration.nanos_add, Duration.ofSeconds] at hlife
  simp only [Instant.lt_def, Instant.nanos_add, Duration.ofSeconds, Limiter.lifetime]
  omega

/-- Under bounded skew an organization with one quota has no more requests of a minute allowed than
its limit says, and no more of a day up to the moment at which the first clock reaches the day's end.
From then on each clock that is behind can have the day's limit once more. -/
theorem bounded_of_skewed (visits : List Visit) (skew : Duration) (o : String) (q : Quota)
    (h : Skewed skew visits) (hq : ∀ v ∈ visits, v.organization = o → v.quota = q) :
    Bounded o q visits where
  minute := by
    intro k
    refine countP_admitted_le h.toRegular (fun v hv => ⟨v, hv, rfl⟩) (fun v hv => h.outlives hv)
      Call.isIn_iff_shares fun v hv hin => ?_
    rw [Call.limit_minute, hq v hv (Call.isIn_iff.mp hin).1]
  day := fun day => countP_before_le (List.Subset.refl _) h.toRegular fun v hv hon =>
    hq v hv (Call.isOn_iff.mp hon).1
  wholeDay := by
    intro day
    obtain ⟨now, hn⟩ := h.exists_le
    obtain ⟨lapsed, current, hledger⟩ := ledger_run h.toRegular
      (fun v hv hon => hq v hv (Call.isOn_iff.mp hon).1) hn
    exact hledger.spent_le_mul_card

-- Two calls stamped 2024-03-09 23:59:59, a second apart: the clock of the second gateway is a
-- second behind that of the first.
private def rollover : List Visit :=
  [0, 1000000000].map fun nanos =>
    { organization := "org_1"
      quota := ⟨5, 1, 0⟩
      time := ⟨1710028799, 0, by decide, .inl (by decide)⟩
      instant := ⟨nanos⟩
      limiter := ⟨.failOpen, .ofMillis 100, 61⟩ }

private theorem skewed_rollover : Skewed (.ofSeconds 1) rollover where
  order := by decide
  inRange := by
    intro v hv w
    simp only [rollover, List.map_cons, List.map_nil, List.mem_cons, List.not_mem_nil,
      or_false] at hv
    rcases hv with rfl | rfl <;> cases w <;> decide
  offsets := by decide
  lifetime := by decide

/-- The day's counter of the first gateway ends while the second gateway is still in the day. -/
theorem bounded_of_skewed_at_rollover :
    Skewed (.ofSeconds 1) rollover ∧
      (∀ v ∈ rollover, v.organization = "org_1" → v.quota = ⟨5, 1, 0⟩) ∧
      Bounded "org_1" ⟨5, 1, 0⟩ rollover := by
  have hq : ∀ v ∈ rollover, v.organization = "org_1" → v.quota = ⟨5, 1, 0⟩ := by decide
  exact ⟨skewed_rollover, hq,
    bounded_of_skewed rollover (.ofSeconds 1) "org_1" ⟨5, 1, 0⟩ skewed_rollover hq⟩

/-- A day's limit does not hold for all calls stamped with the day: both calls are allowed where one
request is. -/
theorem day_limit_exceeded_under_skew :
    ¬ ∀ visits skew o q day, Skewed skew visits →
      (∀ v ∈ visits, v.organization = o → v.quota = q) →
      (admitted visits).countP (Call.isOn o day) ≤ q.requestsPerDay.toNat := by
  intro hall
  have htwo : (admitted rollover).countP (Call.isOn "org_1" 19791) = 2 := by decide +kernel
  have hle := hall rollover (.ofSeconds 1) "org_1" ⟨5, 1, 0⟩ 19791 skewed_rollover (by decide)
  rw [htwo] at hle
  exact absurd hle (by decide)

end Visit

end TenantGateway.RateLimit
