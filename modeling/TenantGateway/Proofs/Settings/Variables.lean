import TenantGateway.Settings.Environment
import TenantGateway.Proofs.Text.Numeral
import TenantGateway.Proofs.Text.Split
import Mathlib.Data.List.Forall2

/-! What the text of an overriding variable means, and the field of the settings that is the
variable's own. -/
namespace TenantGateway

namespace Variable

/-- What can stand for a policy. -/
def policyWords : RateLimit.FailurePolicy → List String
  | .failOpen => ["fail_open", "open"]
  | .failClosed => ["fail_closed", "closed"]

/-- A name and an address around the first equality sign. -/
def SaysService (pair : List Char) (service : Service) : Prop :=
  ∃ name url, pair = name ++ '=' :: url ∧ '=' ∉ name ∧
    service = ⟨String.ofList (Text.trimChars name), String.ofList (Text.trimChars url), true⟩

/-- What stands between the commas, where that is not blank. -/
def pairs (raw : String) : List (List Char) :=
  ((Text.splitAtEach ',' raw.toList).map Text.trimChars).filter (!·.isEmpty)

/-- The value that a text gives to a variable. -/
def Means (raw : String) : (v : Variable) → v.Value → Prop
  | .listen, x => Net.SocketAddress.parse? (Text.trim raw) = some x
  | .cacheRefresh, x => Text.Spells (Text.trimChars raw.toList) x.toNat
  | .failurePolicy, x => Text.trim raw ∈ policyWords x
  | .remoteStore, x => x = raw
  | .bufferCapacity, x => Text.Spells (Text.trimChars raw.toList) x.toNat
  | .batchSize, x => Text.Spells (Text.trimChars raw.toList) x.toNat
  | .flushInterval, x => Text.Spells (Text.trimChars raw.toList) x.toNat
  | .brokers, x => x = raw
  | .topic, x => x = raw
  | .services, x => List.Forall₂ SaysService (pairs raw) x

/-- The text gives some value. -/
def Fits (v : Variable) (raw : String) : Prop := ∃ x, v.Means raw x

private theorem readWord64_eq_ok_iff {raw : String} {x : UInt64} :
    readWord64 raw = .ok x ↔ Text.Spells (Text.trimChars raw.toList) x.toNat := by
  have hread (n : Nat) : Text.readUnsigned (UInt64.size - 1) (Text.trim raw) = .ok n ↔
      Text.Spells (Text.trimChars raw.toList) n ∧ n ≤ UInt64.size - 1 := by
    rw [Text.readUnsigned_eq_ok_iff, Text.trim, String.toList_ofList]
  have hx : x.toNat < UInt64.size := x.toNat_lt
  rw [readWord64]
  constructor
  · intro h
    split at h
    next n hn =>
      obtain ⟨hspells, hle⟩ := (hread n).mp hn
      rw [← Except.ok.inj h, UInt64.toNat_ofNat_of_lt' (by omega)]
      exact hspells
    next => exact absurd h (by simp)
  · intro h
    rw [(hread x.toNat).mpr ⟨h, by omega⟩]
    simp

private theorem readPolicy_eq_ok_iff {raw : String} {x : RateLimit.FailurePolicy} :
    readPolicy raw = .ok x ↔ Text.trim raw ∈ policyWords x := by
  have apart : ∀ word ∈ policyWords .failClosed, word ∉ policyWords .failOpen := by decide
  rw [readPolicy]
  by_cases hopen : Text.trim raw ∈ policyWords .failOpen
  · have hclosed : Text.trim raw ∉ policyWords .failClosed := fun h => apart _ h hopen
    simp only [policyWords, List.mem_cons, List.not_mem_nil, or_false] at hopen
    rw [if_pos hopen]
    cases x with
    | failOpen => simpa [policyWords] using hopen
    | failClosed => simpa using hclosed
  · have hopen' := hopen
    simp only [policyWords, List.mem_cons, List.not_mem_nil, or_false] at hopen
    rw [if_neg hopen]
    cases x with
    | failOpen =>
      simp only [hopen', iff_false]
      split <;> exact fun h => nomatch h
    | failClosed =>
      simp only [policyWords, List.mem_cons, List.not_mem_nil, or_false]
      split
      next hclosed => simp [hclosed]
      next hclosed => simp [hclosed]

private theorem readService_eq_ok_iff {pair : List Char} {service : Service} :
    readService pair = .ok service ↔ SaysService pair service := by
  obtain ⟨name, rest, rfl, hname⟩ := Text.exists_joinAt '=' pair
  rw [readService, Text.splitAtFirst_joinAt hname]
  cases rest with
  | none =>
    simp only [reduceCtorEq, false_iff]
    rintro ⟨name', url, h, -⟩
    rw [Text.joinAt, Option.elim_none, List.append_nil] at h
    exact hname (h ▸ List.mem_append_right _ List.mem_cons_self)
  | some url =>
    simp only [Except.ok.injEq]
    constructor
    · rintro rfl
      exact ⟨name, url, rfl, hname, rfl⟩
    · rintro ⟨name', url', h, hname', rfl⟩
      obtain ⟨rfl, hurl⟩ := (Text.joinAt_inj (s := some url') hname hname').mp h
      obtain rfl := Option.some.inj hurl
      rfl

private theorem mapM_eq_ok_iff {α β ε : Type} {f : α → Except ε β} {as : List α} {bs : List β} :
    as.mapM f = .ok bs ↔ List.Forall₂ (fun a b => f a = .ok b) as bs := by
  induction as generalizing bs with
  | nil =>
    rw [List.mapM_nil, List.forall₂_nil_left_iff]
    exact ⟨fun h => (Except.ok.inj h).symm, fun h => h ▸ rfl⟩
  | cons a as ih =>
    rw [List.mapM_cons]
    cases ha : f a with
    | error e =>
      refine ⟨fun h => (nomatch h), fun h => ?_⟩
      obtain ⟨b, bs', hb, -⟩ := List.forall₂_cons_left_iff.mp h
      exact absurd (ha.symm.trans hb) (by simp)
    | ok b =>
      cases has : as.mapM f with
      | error e =>
        refine ⟨fun h => (nomatch h), fun h => ?_⟩
        obtain ⟨b', bs', -, hbs, -⟩ := List.forall₂_cons_left_iff.mp h
        exact absurd (has.symm.trans (ih.mpr hbs)) (by simp)
      | ok bs' =>
        constructor
        · intro h
          obtain rfl := Except.ok.inj h
          exact .cons ha (ih.mp has)
        · intro h
          obtain ⟨b', bs'', hb, hbs, rfl⟩ := List.forall₂_cons_left_iff.mp h
          obtain rfl := Except.ok.inj (ha.symm.trans hb)
          obtain rfl := Except.ok.inj (has.symm.trans (ih.mpr hbs))
          rfl

private theorem ok_eq_iff_eq {raw x : String} :
    (Except.ok raw : Except String String) = .ok x ↔ x = raw := by
  rw [Except.ok.injEq, eq_comm]

private theorem readServices_eq_ok_iff {raw : String} {services : List Service} :
    readServices raw = .ok services ↔ List.Forall₂ SaysService (pairs raw) services := by
  rw [readServices, mapM_eq_ok_iff, pairs]
  simp only [readService_eq_ok_iff]

/-- A variable is read as what its text means. -/
theorem read_eq_ok_iff {v : Variable} {raw : String} {x : v.Value} :
    v.read raw = .ok x ↔ v.Means raw x := by
  cases v with
  | listen =>
    rw [read, Means]
    cases Net.SocketAddress.parse? (Text.trim raw) <;> simp
  | cacheRefresh => rw [read, Means, readWord64_eq_ok_iff]
  | failurePolicy => rw [read, Means, readPolicy_eq_ok_iff]
  | remoteStore => rw [read, Means, ok_eq_iff_eq]
  | bufferCapacity => rw [read, Means, readWord64_eq_ok_iff]
  | batchSize => rw [read, Means, readWord64_eq_ok_iff]
  | flushInterval => rw [read, Means, readWord64_eq_ok_iff]
  | brokers => rw [read, Means, ok_eq_iff_eq]
  | topic => rw [read, Means, ok_eq_iff_eq]
  | services => rw [read, Means, readServices_eq_ok_iff]

/-- The type of the field that is the variable's own. -/
@[reducible] def Field : Variable → Type
  | .remoteStore => CounterChoice
  | .brokers => SinkChoice
  | v => v.Value

/-- What the variable's field holds for a value. -/
def kept : (v : Variable) → v.Value → v.Field
  | .listen, x => x
  | .cacheRefresh, x => x
  | .failurePolicy, x => x
  | .remoteStore, x => .remote x
  | .bufferCapacity, x => x
  | .batchSize, x => x
  | .flushInterval, x => x
  | .brokers, x => .kafka x
  | .topic, x => x
  | .services, x => x

end Variable

namespace Settings

/-- The variable's own field. -/
def field (s : Settings) : (v : Variable) → v.Field
  | .listen => s.listen
  | .cacheRefresh => s.cache.refreshSeconds
  | .failurePolicy => s.rateLimit.policy
  | .remoteStore => s.rateLimit.store
  | .bufferCapacity => s.usage.bufferCapacity
  | .batchSize => s.usage.batchSize
  | .flushInterval => s.usage.flushIntervalMillis
  | .brokers => s.usage.sink
  | .topic => s.usage.topic
  | .services => s.services

/-- The fields that no variable names. -/
def rest (s : Settings) :=
  (s.cache.entryTtlSeconds, s.cache.fetchTimeoutMillis, s.directory, s.rateLimit.timeoutMillis,
    s.rateLimit.minuteTtlSeconds, s.usage.publishRetries, s.timeout, s.pool, s.logging, s.telemetry)

/-- There are no fields but the variables' own and the rest. -/
theorem eq_of_field_eq {s t : Settings} (hfield : ∀ v, s.field v = t.field v)
    (hrest : s.rest = t.rest) : s = t := by
  obtain ⟨listen, services, cache, directory, rateLimit, usage, timeout, pool, logging,
    telemetry⟩ := s
  obtain ⟨refresh, ttl, fetch⟩ := cache
  obtain ⟨store, policy, limitMillis, minuteTtl⟩ := rateLimit
  obtain ⟨sink, topic, capacity, size, interval, retries⟩ := usage
  simp only [rest, Prod.mk.injEq] at hrest
  obtain ⟨rfl, rfl, rfl, rfl, rfl, rfl, rfl, rfl, rfl, rfl⟩ := hrest
  obtain rfl := hfield .listen
  obtain rfl := hfield .cacheRefresh
  obtain rfl := hfield .failurePolicy
  obtain rfl := hfield .remoteStore
  obtain rfl := hfield .bufferCapacity
  obtain rfl := hfield .batchSize
  obtain rfl := hfield .flushInterval
  obtain rfl := hfield .brokers
  obtain rfl := hfield .topic
  obtain rfl := hfield .services
  rfl

/-- A variable that is assigned sets its own field. -/
@[simp] theorem field_assign_self (s : Settings) (v : Variable) (x : v.Value) :
    (v.assign s x).field v = v.kept x := by
  cases v <;> rfl

/-- It leaves the fields of the others. -/
theorem field_assign_of_ne {v w : Variable} (h : w ≠ v) (s : Settings) (x : v.Value) :
    (v.assign s x).field w = s.field w := by
  cases v <;> cases w <;> first | rfl | exact absurd rfl h

/-- It leaves what no variable sets. -/
@[simp] theorem rest_assign (s : Settings) (v : Variable) (x : v.Value) :
    (v.assign s x).rest = s.rest := by
  cases v <;> rfl

/-- A value that is there already changes nothing. -/
theorem assign_eq_self {s : Settings} {v : Variable} {x : v.Value} (h : s.field v = v.kept x) :
    v.assign s x = s := by
  refine eq_of_field_eq (fun w => ?_) (rest_assign s v x)
  by_cases hw : w = v
  · subst hw
    rw [field_assign_self, h]
  · exact field_assign_of_ne hw s x

end Settings

end TenantGateway
