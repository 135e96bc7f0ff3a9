import TenantGateway.Tenant.Authenticator
import TenantGateway.Tenant.Refresh

/-! What the operations of the cache do to the entry of one fingerprint, and all that a look at the
cache, an answer of the directory and the end of a cycle can lead to. -/
namespace TenantGateway.Tenant

/-- The entry for a record that the directory has given at an instant. -/
def Entry.given (ttlSeconds : Nat) (f : Fingerprint) (r : Record) (time : Instant) : Entry :=
  { fingerprint := f, record := r, expiresAt := time + Duration.ofSeconds ttlSeconds }

/-- An entry comes of a record exactly where the clock can represent its end. -/
theorem Entry.lasting?_eq_some_iff {ttlSeconds : Nat} {now : Instant} {f : Fingerprint}
    {r : Record} {e : Entry} :
    Entry.lasting? ttlSeconds now f r = some e ↔
      e = .given ttlSeconds f r now ∧ (now + Duration.ofSeconds ttlSeconds).InRange := by
  rw [lasting?, Option.map_eq_some_iff]
  constructor
  · rintro ⟨due, hdue, rfl⟩
    obtain ⟨rfl, hrange⟩ := Instant.deadline?_eq_some_iff.mp hdue
    exact ⟨rfl, hrange⟩
  · rintro ⟨rfl, hrange⟩
    exact ⟨_, Instant.deadline?_eq_some_iff.mpr ⟨rfl, hrange⟩, rfl⟩

private theorem mapM_lasting {ttlSeconds : Nat} {now : Instant} {keys : List (Fingerprint × Record)}
    {es : List Entry}
    (h : (keys.mapM fun (f, r) => Entry.lasting? ttlSeconds now f r) = some es) :
    es = keys.map fun (f, r) => .given ttlSeconds f r now := by
  induction keys generalizing es with
  | nil =>
    cases h
    rfl
  | cons key keys ih =>
    rw [List.mapM_cons] at h
    obtain ⟨e, he, h⟩ := Option.bind_eq_some_iff.mp h
    obtain ⟨rest, hrest, h⟩ := Option.bind_eq_some_iff.mp h
    cases h
    rw [(Entry.lasting?_eq_some_iff.mp he).1, ih hrest]
    rfl

private theorem exists_mapM_lasting {ttlSeconds : Nat} {now : Instant}
    (h : (now + Duration.ofSeconds ttlSeconds).InRange) (keys : List (Fingerprint × Record)) :
    ∃ es, (keys.mapM fun (f, r) => Entry.lasting? ttlSeconds now f r) = some es := by
  induction keys with
  | nil => exact ⟨[], rfl⟩
  | cons key keys ih =>
    obtain ⟨f, r⟩ := key
    obtain ⟨rest, hrest⟩ := ih
    have hentry : Entry.lasting? ttlSeconds now f r = some (.given ttlSeconds f r now) :=
      Entry.lasting?_eq_some_iff.mpr ⟨rfl, h⟩
    refine ⟨.given ttlSeconds f r now :: rest, ?_⟩
    simp only [List.mapM_cons, hrest, hentry]
    rfl

/-- Where the clock can represent their end, the keys of a snapshot become entries. -/
theorem Snapshot.exists_entries? {ttlSeconds : Nat} {now : Instant}
    (h : (now + Duration.ofSeconds ttlSeconds).InRange) (s : Snapshot) :
    ∃ es, s.entries? ttlSeconds now = some es := exists_mapM_lasting h s.toList

/-- Of several values put under one fingerprint, the last counts. -/
theorem getElem?_foldl_insert {α β : Type} (key : α → Fingerprint) (value : α → β) (as : List α)
    (m : Std.ExtTreeMap Fingerprint β) (f : Fingerprint) :
    (as.foldl (fun m a => m.insert (key a) (value a)) m)[f]? =
      ((as.reverse.find? fun a => key a = f).map value).or m[f]? := by
  induction as generalizing m with
  | nil => rfl
  | cons a as ih =>
    rw [List.foldl_cons, ih, List.reverse_cons, List.find?_append, Option.map_or, Option.or_assoc,
      Std.ExtTreeMap.getElem?_insert]
    congr 1
    by_cases hf : key a = f
    · simp [hf]
    · simp [hf]

namespace Cache

/-- Of several entries for one fingerprint, the last counts. -/
theorem getElem?_entriesOf (es : List Entry) (f : Fingerprint) :
    (entriesOf es)[f]? = es.reverse.find? fun e => e.fingerprint = f := by
  have hput := getElem?_foldl_insert (·.fingerprint) (fun e => e) es ∅ f
  rwa [Option.map_id', Std.ExtTreeMap.getElem?_empty, Option.or_none] at hput

/-- The entries of a snapshot are its records, all good for the same time. -/
theorem getElem?_entriesOf_snapshot {s : Snapshot} {ttlSeconds : Nat} {now : Instant}
    {es : List Entry} (h : s.entries? ttlSeconds now = some es) (f : Fingerprint) :
    (entriesOf es)[f]? = s[f]?.map fun r => .given ttlSeconds f r now := by
  have hes := mapM_lasting h
  rw [getElem?_entriesOf]
  cases hfound : es.reverse.find? fun e => e.fingerprint = f with
  | none =>
    rw [List.find?_eq_none] at hfound
    cases hr : s[f]? with
    | none => rfl
    | some r =>
      have hmem : Entry.given ttlSeconds f r now ∈ es.reverse := by
        rw [List.mem_reverse, hes]
        exact List.mem_map.mpr
          ⟨(f, r), Std.ExtTreeMap.mem_toList_iff_getElem?_eq_some.mpr hr, rfl⟩
      exact absurd (decide_eq_true rfl) (hfound _ hmem)
  | some e =>
    have hmem := List.mem_of_find?_eq_some hfound
    have hf := List.find?_some hfound
    rw [decide_eq_true_eq] at hf
    rw [List.mem_reverse, hes] at hmem
    obtain ⟨⟨g, r⟩, hr, rfl⟩ := List.mem_map.mp hmem
    have hg : g = f := hf
    subst hg
    rw [Std.ExtTreeMap.mem_toList_iff_getElem?_eq_some.mp hr]
    rfl

/-- Setting an entry changes what is found under its fingerprint alone. -/
theorem getElem?_upsert (c : Cache) (e : Entry) (f : Fingerprint) :
    (c.upsert e).entries[f]? = if e.fingerprint = f then some e else c.entries[f]? := by
  simp only [upsert, Std.ExtTreeMap.getElem?_insert, Std.compare_eq_iff_eq]

/-- Entries that are set one by one begin no new generation. -/
theorem generation_foldl_upsert (es : List Entry) (c : Cache) :
    (es.foldl upsert c).generation = c.generation := by
  induction es generalizing c with
  | nil => rfl
  | cons e es ih => exact ih (c.upsert e)

/-- A look at the cache finds nothing to look for, a good entry, an expired one, or none. -/
theorem inquire_cases (c : Cache) (credential : String) (now : Instant) :
    ((Text.trim credential).isEmpty ∧
        (c.inquire credential now).1 = .done (.denied .missing)) ∨
      ∃ f, f = Fingerprint.ofCredential (Text.trim credential) ∧
        ((∃ e, c.entries[f]? = some e ∧ now < e.expiresAt ∧
            (c.inquire credential now).1 = .done (.granted e)) ∨
          (∃ e, c.entries[f]? = some e ∧ e.expiresAt ≤ now ∧
            (c.inquire credential now).1 = .ask f (some e)) ∨
          (c.entries[f]? = none ∧ (c.inquire credential now).1 = .ask f none)) := by
  by_cases hblank : (Text.trim credential).isEmpty
  · left
    refine ⟨hblank, ?_⟩
    simp only [inquire, hblank, if_true]
  · right
    refine ⟨_, rfl, ?_⟩
    simp only [inquire, lookup, hblank, if_false, Bool.false_eq_true]
    cases hentry : c.entries[Fingerprint.ofCredential (Text.trim credential)]? with
    | none => exact .inr (.inr ⟨rfl, rfl⟩)
    | some e =>
      by_cases hexpired : e.expiresAt ≤ now
      · refine .inr (.inl ⟨e, rfl, hexpired, ?_⟩)
        simp only [Entry.isExpired, hexpired, decide_true, if_true]
      · refine .inl ⟨e, rfl, Nat.lt_of_not_le hexpired, ?_⟩
        simp only [Entry.isExpired, hexpired, decide_false, if_false, Bool.false_eq_true]

/-- An answer of the directory either gives a record, which is granted and kept, or leaves the cache
alone; then the caller is denied, has its old entry, or has nothing for want of a deadline. -/
theorem settle_cases (c : Cache) (ttlSeconds : Nat) (f : Fingerprint) (stale : Option Entry)
    (now : Instant) (answer : Except DirectoryError (Option Record)) :
    (∃ r, answer = .ok (some r) ∧
        c.settle ttlSeconds f stale now answer =
          (.granted (.given ttlSeconds f r now), c.upsert (.given ttlSeconds f r now))) ∨
      (∃ r, answer = .ok (some r) ∧ ¬(now + Duration.ofSeconds ttlSeconds).InRange ∧
        c.settle ttlSeconds f stale now answer = (.deadlineOverflow, c)) ∨
      (answer = .ok none ∧ c.settle ttlSeconds f stale now answer = (.denied .invalid, c)) ∨
      (∃ error e, answer = .error error ∧ stale = some e ∧
        c.settle ttlSeconds f stale now answer = (.granted e, c)) ∨
      (∃ error, answer = .error error ∧ stale = none ∧
        c.settle ttlSeconds f stale now answer = (.denied (.unavailable error.message), c)) := by
  match answer with
  | .ok (some r) =>
    cases hentry : Entry.lasting? ttlSeconds now f r with
    | some e =>
      obtain ⟨rfl, -⟩ := Entry.lasting?_eq_some_iff.mp hentry
      refine .inl ⟨r, rfl, ?_⟩
      simp only [settle, hentry]
    | none =>
      refine .inr (.inl ⟨r, rfl, ?_, ?_⟩)
      · intro hrange
        have hsome : Entry.lasting? ttlSeconds now f r = some (.given ttlSeconds f r now) :=
          Entry.lasting?_eq_some_iff.mpr ⟨rfl, hrange⟩
        rw [hentry] at hsome
        cases hsome
      · simp only [settle, hentry]
  | .ok none => exact .inr (.inr (.inl ⟨rfl, rfl⟩))
  | .error error =>
    cases stale with
    | some e => exact .inr (.inr (.inr (.inl ⟨error, e, rfl, rfl, rfl⟩)))
    | none => exact .inr (.inr (.inr (.inr ⟨error, rfl, rfl, rfl⟩)))

/-- An answer of the directory breaks a call off only for want of a deadline. -/
theorem not_inRange_of_settle {c : Cache} {ttlSeconds : Nat} {f : Fingerprint}
    {stale : Option Entry} {now : Instant} {answer : Except DirectoryError (Option Record)}
    (h : (c.settle ttlSeconds f stale now answer).1 = .deadlineOverflow) :
    ¬(now + Duration.ofSeconds ttlSeconds).InRange := by
  rcases c.settle_cases ttlSeconds f stale now answer with
    ⟨r, -, hend⟩ | ⟨r, -, hrange, -⟩ | ⟨-, hend⟩ | ⟨_, e, -, -, hend⟩ | ⟨_, -, -, hend⟩
  case inr.inl => exact hrange
  all_goals
    rw [hend] at h
    cases h

end Cache

/-- A record that is found becomes an entry just where the clock can represent the entry's end. -/
theorem settle_of_found (c : Cache) (ttlSeconds : Nat) (f : Fingerprint)
    (stale : Option Entry) (now : Instant) (r : Record) :
    (now + Duration.ofSeconds ttlSeconds).InRange ∧
        c.settle ttlSeconds f stale now (.ok (some r)) =
          (.granted (.given ttlSeconds f r now), c.upsert (.given ttlSeconds f r now)) ∨
      ¬(now + Duration.ofSeconds ttlSeconds).InRange ∧
        c.settle ttlSeconds f stale now (.ok (some r)) = (.deadlineOverflow, c) := by
  cases hentry : Entry.lasting? ttlSeconds now f r with
  | some e =>
    obtain ⟨rfl, hrange⟩ := Entry.lasting?_eq_some_iff.mp hentry
    refine .inl ⟨hrange, ?_⟩
    simp only [Cache.settle, hentry]
  | none =>
    refine .inr ⟨fun hrange => ?_, ?_⟩
    · cases hentry.symm.trans (Entry.lasting?_eq_some_iff.mpr ⟨rfl, hrange⟩)
    · simp only [Cache.settle, hentry]

/-- A cycle ends in a new generation of the snapshot's records, or leaves the cache alone. -/
theorem Refresher.complete_cases (r : Refresher) (c : Cache) (now : Instant)
    (answer : Except RefreshError Snapshot) :
    (∃ e, answer = .error e ∧ r.complete c now answer = (.failed e, r.fail, c)) ∨
      (∃ s entries, answer = .ok s ∧
        r.complete c now answer =
          (.refreshed, r.succeed (c.difference s) now, c.replaceAll entries) ∧
        ∀ f, entries[f]? = s[f]?.map fun record => Entry.given r.ttlSeconds f record now) ∨
      (∃ s, answer = .ok s ∧ s.entries? r.ttlSeconds now = none ∧
        r.complete c now answer = (.deadlineOverflow, { r with state := .swapping }, c)) := by
  match answer with
  | .error e => exact .inl ⟨e, rfl, rfl⟩
  | .ok s =>
    cases hes : s.entries? r.ttlSeconds now with
    | some es =>
      refine .inr (.inl ⟨s, Cache.entriesOf es, rfl, ?_, Cache.getElem?_entriesOf_snapshot hes⟩)
      simp only [complete, hes]
    | none =>
      refine .inr (.inr ⟨s, rfl, hes, ?_⟩)
      simp only [complete, hes]

end TenantGateway.Tenant
