import TenantGateway.Simulation.Counters
import TenantGateway.Proofs.RateLimit.Keys
import TenantGateway.Proofs.RateLimit.Store

/-! What the admission of one request does to counters in memory: it adds one to both counters of the
organization, or no read can tell that it has been. -/
namespace TenantGateway

namespace RateLimit.MemoryStore

/-- From an instant on, reads of `t` see what reads of `s` see. -/
def Unchanged (now : Instant) (s t : MemoryStore) : Prop :=
  ∀ key later, now ≤ later → t.get? key later = s.get? key later

/-- The two counters of a question hold one more than was read, and other reads see no difference. -/
structure CountedOnce (q : CounterQuery) (now : Instant) (s t : MemoryStore) : Prop where
  daily : ∃ c, t.counters[q.dailyKey]? = some c ∧
    c.value.toNat = (count s.counters q.dailyKey now).toNat + 1
  minute : ∃ c, t.counters[q.minuteKey]? = some c ∧
    c.value.toNat = (count s.counters q.minuteKey now).toNat + 1
  others : ∀ key later, now ≤ later → key ≠ q.dailyKey → key ≠ q.minuteKey →
    t.get? key later = s.get? key later

variable {s : MemoryStore} {q : CounterQuery} {now : Instant}

private theorem unchanged_purged (s : MemoryStore) (now : Instant) :
    Unchanged now s (s.purged now) := by
  intro key later hle
  simp only [get?, purged, live_purge _ _ hle]

private theorem countedOnce_counted {daily minute : Counter} (hkeys : q.dailyKey ≠ q.minuteKey)
    (hdaily : daily.value.toNat = (count s.counters q.dailyKey now).toNat + 1)
    (hminute : minute.value.toNat = (count s.counters q.minuteKey now).toNat + 1) :
    CountedOnce q now s (s.counted q now daily minute) where
  daily := by
    refine ⟨daily, ?_, hdaily⟩
    rw [counted, Std.ExtTreeMap.getElem?_insert, Std.ExtTreeMap.getElem?_insert_self]
    exact if_neg fun h => hkeys (Std.compare_eq_iff_eq.mp h).symm
  minute := ⟨minute, Std.ExtTreeMap.getElem?_insert_self, hminute⟩
  others := by
    intro key later hle hd hm
    simp only [get?, live_counted hle, if_neg (Ne.symm hm), if_neg (Ne.symm hd)]
    rfl

private theorem check_outcomes (s : MemoryStore) (now : Instant)
    (hkeys : q.dailyKey ≠ q.minuteKey) :
    (∃ e, s.check q now = (.error (.error e), s)) ∨
      (∃ reply, reply.outcome.exceeded.isSome ∧ s.check q now = (.ok reply, s.purged now)) ∨
      (∃ reply t, reply.outcome.exceeded = none ∧ s.check q now = (.ok reply, t) ∧
        CountedOnce q now s t) ∨
      ((s.check q now).1 = .error .deadlineOverflow ∧ ¬ q.InRange now) := by
  by_cases havailable : s.available
  · by_cases hpoisoned : s.poisoned
    · refine .inl ⟨.unavailable "counter lock poisoned", ?_⟩
      simp only [check, havailable, hpoisoned, not_true_eq_false, if_true, if_false]
    · have hserving : s.Serving := ⟨havailable, Bool.not_eq_true _ ▸ hpoisoned⟩
      rcases check_endings hserving q now with ⟨-, hcheck⟩ | ⟨-, -, hcheck⟩ |
        ⟨hd, hm, daily, minute, hdaily, hminute, hcheck⟩ | ⟨hnone, hcheck⟩
      · exact .inr (.inl ⟨_, rfl, hcheck⟩)
      · exact .inr (.inl ⟨_, rfl, hcheck⟩)
      · refine .inr (.inr (.inl ⟨_, _, rfl, hcheck, ?_⟩))
        exact countedOnce_counted hkeys (value_of_bump hd hdaily) (value_of_bump hm hminute)
      · exact .inr (.inr (.inr ⟨congrArg Prod.fst hcheck, not_inRange_of_bump hnone⟩))
  · refine .inl ⟨.unavailable "memory counter store marked unavailable", ?_⟩
    simp only [check, if_pos havailable]

end RateLimit.MemoryStore

namespace Simulation
open RateLimit
open Calendar (Timestamp Date)

private theorem toList_pinKey {key : String} {head suffix : List Char} (hsuffix : ':' ∉ suffix)
    (h : key.toList = head ++ ':' :: suffix) :
    (pinKey key).toList = head ++ ':' :: "pinned".toList := by
  have hskip : key.toList.reverse.dropWhile (· != ':') = ':' :: head.reverse := by
    rw [h, List.reverse_append, List.reverse_cons, List.append_assoc,
      List.dropWhile_append_of_pos (by
        intro c hc
        rw [List.mem_reverse] at hc
        exact bne_iff_ne.mpr (fun he => hsuffix (he ▸ hc)))]
    simp
  rw [pinKey, String.toList_append, String.toList_ofList, hskip, List.reverse_cons,
    List.reverse_reverse, List.append_assoc]
  rfl

/-- In windows of either kind, a day's counter is no minute's counter. -/
theorem Windows.dailyKey_ne_minuteKey (w : Windows) (l : Limiter) (organization : String)
    (quota : Quota) (t : Timestamp) :
    (w.query (l.query organization quota t)).dailyKey ≠
      (w.query (l.query organization quota t)).minuteKey := by
  cases w with
  | calendar => exact RateLimit.dailyKey_ne_minuteKey _ _ _ _
  | pinned dailyTtl =>
    intro h
    change pinKey (dailyKey organization t) = pinKey (minuteKey organization t) at h
    have hl := congrArg String.toList h
    rw [toList_pinKey (Date.colon_not_mem_compactText _) (dailyKey_toList _ _),
      toList_pinKey (Text.colon_not_mem_toString_int _) (minuteKey_toList _ _)] at hl
    exact daily_head_ne_minute_head _ _ (List.append_cancel_right hl)

private theorem Windows.reply_error (w : Windows) (e : StoreFailure) :
    w.reply (.error e) = .error e := by
  cases w <;> rfl

private theorem Windows.reply_ok (w : Windows) (r : CounterReply) :
    ∃ r', w.reply (.ok r) = .ok r' ∧ r'.outcome = r.outcome := by
  cases w with
  | calendar => exact ⟨r, rfl, rfl⟩
  | pinned dailyTtl => exact ⟨{ r with dailyTtl := some dailyTtl }, rfl, rfl⟩

namespace LimiterSession

/-- The counters in memory are asked, and no reply is queued in front of them. -/
def InMemory (s : LimiterSession) : Prop := s.counters.queue = []

/-- What the reply of a store that answers at once means for a request. -/
def verdictOf (l : Limiter) (q : CounterQuery) (t : Timestamp) :
    Except StoreFailure CounterReply → Option (Except LimiterError Admission)
  | .ok reply => some (l.applyPolicy (.ok (.ofReply q reply t)))
  | .error (.error e) => some (l.applyPolicy (.error (.unavailable e)))
  | .error .deadlineOverflow => none

private theorem admissionIn_eq {s : LimiterSession} (hs : s.InMemory) (w : Windows)
    (organization : String) (quota : Quota) (t : Timestamp) :
    let q := s.limiter.query organization quota t
    let answer := s.counters.memory.check (w.query q) s.now
    (s.admissionIn w organization quota t).1 = verdictOf s.limiter q t (w.reply answer.1) ∧
      (s.admissionIn w organization quota t).2.counters = ⟨answer.2, []⟩ := by
  obtain ⟨limiter, ⟨memory, queue⟩, now, reports⟩ := s
  cases hs
  have hintime : ¬limiter.timeout < Duration.zero := Nat.not_lt_zero _
  simp only [admissionIn, settle, Counters.call]
  match w.reply (memory.check (w.query (limiter.query organization quota t)) now).1 with
  | .ok reply =>
    simp only [Limiter.settle, if_neg hintime]
    exact ⟨rfl, rfl⟩
  | .error (.error e) =>
    simp only [Limiter.settle, if_neg hintime]
    exact ⟨rfl, rfl⟩
  | .error .deadlineOverflow =>
    simp only [Limiter.settle, if_neg hintime]
    exact ⟨rfl, trivial⟩

/-- An answer of the store leaves the limiter's settings as they are. -/
theorem limiter_settle (s : LimiterSession) (q : CounterQuery) (t : Timestamp)
    (answer : Duration × Except StoreFailure CounterReply × Counters) :
    (s.settle q t answer).2.limiter = s.limiter := by
  simp only [settle]
  split <;> rfl

/-- So does an admission. -/
theorem limiter_admissionIn (s : LimiterSession) (w : Windows) (organization : String)
    (quota : Quota) (t : Timestamp) :
    (s.admissionIn w organization quota t).2.limiter = s.limiter := by
  have hsettle := s.limiter_settle (s.limiter.query organization quota t) t
    (s.counters.call w (s.limiter.query organization quota t) s.now)
  simp only [admissionIn]
  split <;> exact hsettle

/-- What the admission of a request comes to, and the store after it. -/
inductive Admitted (s : LimiterSession) (q : CounterQuery) :
    Option (Except LimiterError Admission) → MemoryStore → Prop where
  | counted {d : Decision} {t : MemoryStore}
      (h : MemoryStore.CountedOnce q s.now s.counters.memory t) :
      Admitted s q (some (.ok (.allowed d))) t
  | denied {d : Decision} {t : MemoryStore}
      (h : MemoryStore.Unchanged s.now s.counters.memory t) :
      Admitted s q (some (.ok (.denied d))) t
  /-- The store is out of order, and the policy lets requests through. -/
  | skipped {reason : String} {t : MemoryStore} (h : s.limiter.policy = .failOpen)
      (hmemory : t = s.counters.memory) : Admitted s q (some (.ok (.degraded reason))) t
  | refused {e : LimiterError} {t : MemoryStore} (h : s.limiter.policy = .failClosed)
      (hmemory : t = s.counters.memory) : Admitted s q (some (.error e)) t
  /-- A counter would have to end where the clock does not reach. -/
  | brokenOff {t : MemoryStore} (h : ¬ q.InRange s.now) : Admitted s q none t

/-- An admission counts the request once and allows it, finds a limit reached, follows the policy
because the store is out of order, or breaks off. -/
theorem admissionIn_admitted {s : LimiterSession} (hs : s.InMemory) (w : Windows)
    (organization : String) (quota : Quota) (t : Timestamp) :
    let r := s.admissionIn w organization quota t
    r.2.InMemory ∧
      Admitted s (w.query (s.limiter.query organization quota t)) r.1 r.2.counters.memory := by
  have hkeys := w.dailyKey_ne_minuteKey s.limiter organization quota t
  obtain ⟨hanswer, hcounters⟩ := admissionIn_eq hs w organization quota t
  simp only [hanswer, hcounters, InMemory, true_and]
  rcases s.counters.memory.check_outcomes s.now hkeys with
    ⟨e, hcheck⟩ | ⟨reply, hexceeded, hcheck⟩ | ⟨reply, after, hexceeded, hcheck, hcounted⟩ |
      ⟨hcheck, hends⟩
  · rw [hcheck, Windows.reply_error]
    cases hpolicy : s.limiter.policy with
    | failOpen =>
      simp only [verdictOf, Limiter.applyPolicy, hpolicy]
      exact .skipped hpolicy rfl
    | failClosed =>
      simp only [verdictOf, Limiter.applyPolicy, hpolicy]
      exact .refused hpolicy rfl
  · obtain ⟨reply', hreply, houtcome⟩ := w.reply_ok reply
    rw [hcheck, hreply]
    have hdenied : reply'.outcome.exceeded.isNone = false := by
      rw [houtcome, Option.isNone_eq_false_iff]
      exact hexceeded
    simp only [verdictOf, Limiter.applyPolicy, Decision.ofReply, hdenied, Bool.false_eq_true,
      if_false]
    exact .denied (s.counters.memory.unchanged_purged s.now)
  · obtain ⟨reply', hreply, houtcome⟩ := w.reply_ok reply
    rw [hcheck, hreply]
    have hallowed : reply'.outcome.exceeded.isNone = true := by
      rw [houtcome, hexceeded]
      rfl
    simp only [verdictOf, Limiter.applyPolicy, Decision.ofReply, hallowed, if_true]
    exact .counted hcounted
  · rw [hcheck, Windows.reply_error]
    exact .brokenOff hends

end LimiterSession

end Simulation

end TenantGateway
