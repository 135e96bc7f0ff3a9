import TenantGateway.Proofs.Tenant.Cache
import Mathlib.Data.Set.Card

/-! What a refresh says it has changed is what it has changed. Its figures are counted over lists of
keys; here they are the sizes of sets of fingerprints, for which no order of counting matters, so that
the old size with what was added is the new size with what was removed. Afterwards the cache holds the
snapshot and nothing else, and the same snapshot once more changes nothing. -/
namespace TenantGateway.Tenant

section Counting

variable {α β : Type}

private theorem mem_iff_exists {m : Std.ExtTreeMap Fingerprint α} {f : Fingerprint} :
    f ∈ m ↔ ∃ a, m[f]? = some a := by
  rw [Std.ExtTreeMap.mem_iff_isSome_getElem?, Option.isSome_iff_exists]

private theorem length_filter_toList (m : Std.ExtTreeMap Fingerprint α)
    (p : Fingerprint × α → Bool) :
    (m.toList.filter p).length = {f | ∃ a, m[f]? = some a ∧ p (f, a) = true}.ncard := by
  have hdistinct : ((m.toList.filter p).map Prod.fst).Nodup := by
    have hkeys := m.distinct_keys_toList.sublist (List.filter_sublist (p := p))
    refine List.pairwise_map.mpr (hkeys.imp fun hne heq => hne ?_)
    exact Std.compare_eq_iff_eq.mpr heq
  have hset : {f | ∃ a, m[f]? = some a ∧ p (f, a) = true} =
      ↑((m.toList.filter p).map Prod.fst).toFinset := by
    ext f
    simp [Std.ExtTreeMap.mem_toList_iff_getElem?_eq_some]
  rw [hset, Set.ncard_coe_finset, List.toFinset_card_of_nodup hdistinct, List.length_map]

private theorem finite_keys (m : Std.ExtTreeMap Fingerprint α) : {f | f ∈ m}.Finite := by
  refine m.keys.toFinset.finite_toSet.subset fun f hf => ?_
  exact List.mem_toFinset.mpr (Std.ExtTreeMap.mem_keys.mpr hf)

private theorem ncard_keys (m : Std.ExtTreeMap Fingerprint α) : {f | f ∈ m}.ncard = m.size := by
  have hall := length_filter_toList m fun _ => true
  rw [List.filter_true, Std.ExtTreeMap.length_toList] at hall
  rw [hall]
  congr 1
  ext f
  simp only [Set.mem_ofPred_eq, mem_iff_exists, and_true]

private theorem length_filter_not_contains (m : Std.ExtTreeMap Fingerprint α)
    (m' : Std.ExtTreeMap Fingerprint β) :
    (m.toList.filter fun (f, _) => !m'.contains f).length = {f | f ∈ m ∧ f ∉ m'}.ncard := by
  rw [length_filter_toList]
  congr 1
  ext f
  simp only [Set.mem_ofPred_eq, Bool.not_eq_true', exists_and_right, ← mem_iff_exists,
    Bool.eq_false_iff, ne_eq, Std.ExtTreeMap.contains_iff_mem]

private theorem forall_not_of_ncard (m : Std.ExtTreeMap Fingerprint α) {p : Fingerprint → Prop}
    (hp : ∀ f, p f → f ∈ m) (h : {f | p f}.ncard = 0) (f : Fingerprint) : ¬p f := by
  have hfinite : {f | p f}.Finite := (finite_keys m).subset hp
  exact Set.eq_empty_iff_forall_notMem.mp ((Set.ncard_eq_zero hfinite).mp h) f

private theorem size_add_length_filter (m : Std.ExtTreeMap Fingerprint α)
    (m' : Std.ExtTreeMap Fingerprint β) :
    m.size + {f | f ∈ m' ∧ f ∉ m}.ncard = m'.size + {f | f ∈ m ∧ f ∉ m'}.ncard := by
  -- What two maps have together can be reckoned from either of them.
  have hleft := Set.ncard_sdiff_add_ncard _ _ (finite_keys m') (finite_keys m)
  have hright := Set.ncard_sdiff_add_ncard _ _ (finite_keys m) (finite_keys m')
  rw [ncard_keys] at hleft hright
  rw [Set.union_comm, ← hleft] at hright
  exact (Nat.add_comm _ _).trans (hright.symm.trans (Nat.add_comm _ _))

end Counting

/-- The figures are those of the fingerprints that only the snapshot has, that only the cache has, and
that both have with different records. -/
structure Difference.Exact (d : Difference) (c : Cache) (s : Snapshot) : Prop where
  added : d.added = {f | f ∈ s ∧ f ∉ c.entries}.ncard
  removed : d.removed = {f | f ∈ c.entries ∧ f ∉ s}.ncard
  updated : d.updated = {f : Fingerprint |
    ∃ e r, c.entries[f]? = some e ∧ s[f]? = some r ∧ e.record ≠ r}.ncard
  total : d.total = s.size
  balance : c.size + d.added = d.total + d.removed

private theorem Cache.exact_difference (c : Cache) (s : Snapshot) : (c.difference s).Exact c s where
  added := length_filter_not_contains s c.entries
  removed := length_filter_not_contains c.entries s
  updated := by
    refine (length_filter_toList s _).trans (congrArg Set.ncard ?_)
    ext f
    simp only [Set.mem_ofPred_eq, Option.any_eq_true, bne_iff_ne]
    constructor
    · rintro ⟨r, hr, e, he, hne⟩
      exact ⟨e, r, he, hr, hne⟩
    · rintro ⟨e, r, he, hr, hne⟩
      exact ⟨r, hr, e, he, hne⟩
  total := rfl
  balance := by
    simp only [difference, length_filter_not_contains]
    exact size_add_length_filter c.entries s

/-- The cache has the snapshot's records and no others, whatever it thinks of their age. -/
def Cache.Agrees (c : Cache) (s : Snapshot) : Prop :=
  ∀ f : Fingerprint, c.entries[f]?.map (·.record) = s[f]?

/-- Nothing is reported exactly when nothing has to be changed. -/
theorem Cache.difference_eq_iff (c : Cache) (s : Snapshot) :
    c.difference s = ⟨0, 0, 0, s.size⟩ ↔ c.Agrees s := by
  obtain ⟨hadded, hremoved, hupdated, htotal, -⟩ := c.exact_difference s
  constructor
  · intro hnothing
    rw [hnothing] at hadded hremoved hupdated
    have hin := forall_not_of_ncard s (fun _ hf => hf.1) hadded.symm
    have hout := forall_not_of_ncard c.entries (fun _ hf => hf.1) hremoved.symm
    have hsame := forall_not_of_ncard s
      (fun _ ⟨_, r, _, hr, _⟩ => mem_iff_exists.mpr ⟨r, hr⟩) hupdated.symm
    intro f
    cases he : c.entries[f]? with
    | none =>
      have hf : f ∉ c.entries := fun hf => by
        obtain ⟨e, he'⟩ := mem_iff_exists.mp hf
        exact nomatch he.symm.trans he'
      have hs : f ∉ s := fun hs => hin f ⟨hs, hf⟩
      exact (Std.ExtTreeMap.getElem?_eq_none hs).symm
    | some e =>
      have hf : f ∈ c.entries := mem_iff_exists.mpr ⟨e, he⟩
      obtain ⟨r, hr⟩ := mem_iff_exists.mp (not_not.mp fun hs => hout f ⟨hf, hs⟩)
      have her : e.record = r := not_not.mp fun hne => hsame f ⟨e, r, he, hr, hne⟩
      rw [hr, ← her, Option.map_some]
  · intro hagrees
    have hkeys : ∀ f : Fingerprint, f ∈ c.entries ↔ f ∈ s := by
      intro f
      simp only [Std.ExtTreeMap.mem_iff_isSome_getElem?, ← hagrees f, Option.isSome_map]
    have hrecords : ∀ f : Fingerprint,
        ¬∃ e r, c.entries[f]? = some e ∧ s[f]? = some r ∧ e.record ≠ r := by
      rintro f ⟨e, r, he, hr, hne⟩
      rw [← hagrees f, he] at hr
      exact hne (Option.some.inj hr)
    simp only [hkeys, hrecords, and_not_self_iff, Set.ofPred_false, Set.ncard_empty]
      at hadded hremoved hupdated
    calc c.difference s
      _ = ⟨(c.difference s).added, (c.difference s).updated, (c.difference s).removed,
            (c.difference s).total⟩ := rfl
      _ = ⟨0, 0, 0, s.size⟩ := by rw [hadded, hupdated, hremoved, htotal]

/-- A snapshot without keys needs no deadline. -/
theorem Snapshot.entries?_eq_none_iff (s : Snapshot) (ttlSeconds : Nat) (now : Instant) :
    s.entries? ttlSeconds now = none ↔
      s.size ≠ 0 ∧ ¬(now + Duration.ofSeconds ttlSeconds).InRange := by
  have hempty : s.size = 0 ↔ s.toList = [] := by
    rw [← List.length_eq_zero_iff, Std.ExtTreeMap.length_toList]
  constructor
  · intro hnone
    constructor
    · intro hsize
      rw [entries?, hempty.mp hsize] at hnone
      cases hnone
    · intro hrange
      obtain ⟨es, hes⟩ := exists_entries? hrange s
      exact nomatch hnone.symm.trans hes
  · rintro ⟨hsize, hrange⟩
    refine Option.eq_none_iff_forall_ne_some.mpr fun es hes => ?_
    cases hkeys : s.toList with
    | nil => exact hsize (hempty.mpr hkeys)
    | cons key keys =>
      rw [entries?, hkeys, List.mapM_cons] at hes
      obtain ⟨e, he, -⟩ := Option.bind_eq_some_iff.mp hes
      exact hrange (Entry.lasting?_eq_some_iff.mp he).2

/-- What a cycle that has fetched a snapshot reports and leaves behind once it has replaced the
cache. -/
structure Renewed (ttlSeconds : Nat) (now : Instant) (c : Cache) (s : Snapshot) (stats : RefreshStats)
    (after : Cache) : Prop where
  exact : stats.last.Exact c s
  holds : ∀ f : Fingerprint, after.entries[f]? = s[f]?.map fun r => .given ttlSeconds f r now
  size : after.size = s.size
  /-- The same snapshot once more changes nothing. -/
  again : ∀ (r : Refresher) (later : Instant), (r.complete after later (.ok s)).1 = .refreshed →
    (r.complete after later (.ok s)).2.1.stats.last = ⟨0, 0, 0, s.size⟩

private theorem agrees_of_given {ttlSeconds : Nat} {now : Instant} {c : Cache} {s : Snapshot}
    (h : ∀ f : Fingerprint, c.entries[f]? = s[f]?.map fun r => .given ttlSeconds f r now) :
    c.Agrees s := by
  intro f
  rw [h f, Option.map_map]
  exact Option.map_id'

private theorem Cache.Agrees.size_eq {c : Cache} {s : Snapshot} (h : c.Agrees s) :
    c.size = s.size := by
  have hbalance := (c.exact_difference s).balance
  rw [(c.difference_eq_iff s).mpr h] at hbalance
  exact hbalance

/-- A cycle that has fetched a snapshot reports exactly how it differs from the cache and replaces
the cache by it, unless a key of the snapshot would have no end that the clock can represent: then it
breaks off, and neither the cache nor the figures change. -/
theorem Refresher.exact_complete (r : Refresher) (c : Cache) (now : Instant) (s : Snapshot) :
    ((s.size = 0 ∨ (now + Duration.ofSeconds r.ttlSeconds).InRange) ∧
        ∃ r' after, r.complete c now (.ok s) = (.refreshed, r', after) ∧
          Renewed r.ttlSeconds now c s r'.stats after) ∨
      ((s.size ≠ 0 ∧ ¬(now + Duration.ofSeconds r.ttlSeconds).InRange) ∧
        r.complete c now (.ok s) = (.deadlineOverflow, { r with state := .swapping }, c)) := by
  by_cases hend : s.size ≠ 0 ∧ ¬(now + Duration.ofSeconds r.ttlSeconds).InRange
  · refine .inr ⟨hend, ?_⟩
    have hnone := (s.entries?_eq_none_iff r.ttlSeconds now).mpr hend
    simp only [complete, hnone]
  · refine .inl ⟨by rwa [not_and_or, not_not, not_not] at hend, ?_⟩
    rcases r.complete_cases c now (.ok s) with
      ⟨e, hanswer, -⟩ | ⟨s', entries, hanswer, hcycle, hentries⟩ | ⟨s', hanswer, hnone, -⟩
    · cases hanswer
    · cases hanswer
      have hagrees : (c.replaceAll entries).Agrees s := agrees_of_given hentries
      refine ⟨_, _, hcycle, c.exact_difference s, hentries, hagrees.size_eq, ?_⟩
      intro r₂ later hrefreshed
      rcases r₂.complete_cases (c.replaceAll entries) later (.ok s) with
        ⟨e, hanswer, -⟩ | ⟨s', entries', hanswer, hcycle', -⟩ | ⟨s', hanswer, -, hcycle'⟩
      · cases hanswer
      · cases hanswer
        rw [hcycle']
        exact (Cache.difference_eq_iff _ s).mpr hagrees
      · rw [hcycle'] at hrefreshed
        cases hrefreshed
    · cases hanswer
      exact absurd ((s.entries?_eq_none_iff _ _).mp hnone) hend

end TenantGateway.Tenant
