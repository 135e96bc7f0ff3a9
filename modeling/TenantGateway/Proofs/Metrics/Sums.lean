import TenantGateway.Metrics.Registry
import Mathlib.Data.List.Induction
import Mathlib.Data.UInt

/-! What a registry tells of the measurements that it has been given. The series of a counter add up
to what the measurements add to them, in whatever order they come; a gauge has what was set last. -/
namespace TenantGateway.Metrics

/-- A series of an instrument, with some labels among its own. -/
def Series.isOf (s : Series) (i : Instrument) (selector : Labels) : Bool :=
  s.instrument = i && selector.all s.labels.contains

/-- The number of a counter or a gauge. -/
def Cell.value : Cell → UInt64
  | .number n => n
  | .histogram _ => 0

/-- The sum over the series of an instrument that have some labels. -/
def Registry.sum (r : Registry) (i : Instrument) (selector : Labels) : UInt64 :=
  ((r.cells.filter fun c => c.1.isOf i selector).map fun c => c.2.value).sum

/-- The number of one series, once it has one. -/
def Registry.value? (r : Registry) (s : Series) : Option UInt64 :=
  (r.cells.find? fun c => c.1 = s).map fun c => c.2.value

/-- What an effect adds to the series of an instrument that have some labels. -/
def Effect.amount (i : Instrument) (selector : Labels) : Effect → UInt64
  | .add j labels n => if (⟨j, labels⟩ : Series).isOf i selector then n else 0
  | _ => 0

/-- What measurements add to the series of an instrument that have some labels. -/
def total (i : Instrument) (selector : Labels) (ms : List Measurement) : UInt64 :=
  ((ms.flatMap effects).map (Effect.amount i selector)).sum

/-- What an effect sets a series to. -/
def Effect.setting? (s : Series) : Effect → Option UInt64
  | .set i labels n => if (⟨i, labels⟩ : Series) = s then some n else none
  | _ => none

/-- What measurements set a series to in the end. -/
def latest (s : Series) (ms : List Measurement) : Option UInt64 :=
  ((ms.flatMap effects).filterMap (Effect.setting? s)).getLast?

/-- The latest value of a series is the one that was reported later. -/
theorem latest_append (s : Series) (ms more : List Measurement) :
    latest s (ms ++ more) = (latest s more).or (latest s ms) := by
  rw [latest, List.flatMap_append, List.filterMap_append, List.getLast?_append]
  rfl

/-- A series has no value as long as no measurement gives it one. -/
theorem latest_eq_none_iff {s : Series} {ms : List Measurement} :
    latest s ms = none ↔ ∀ m ∈ ms, latest s [m] = none := by
  induction ms with
  | nil => simp [latest]
  | cons m ms ih =>
    have happend := latest_append s [m] ms
    rw [List.forall_mem_cons, ← ih, and_comm]
    exact (congrArg (· = none) happend).to_iff.trans Option.or_eq_none_iff

section Totals

variable {i : Instrument} {selector : Labels}

@[simp] theorem total_nil : total i selector [] = 0 := rfl

/-- Totals add up over reports that come one after the other. -/
theorem total_append (ms more : List Measurement) :
    total i selector (ms ++ more) = total i selector ms + total i selector more := by
  rw [total, List.flatMap_append, List.map_append, List.sum_append]
  rfl

theorem total_cons (m : Measurement) (ms : List Measurement) :
    total i selector (m :: ms) = total i selector [m] + total i selector ms :=
  total_append [m] ms

/-- A total does not depend on the order of the reports. -/
theorem total_reverse (ms : List Measurement) :
    total i selector ms.reverse = total i selector ms := by
  induction ms with
  | nil => rfl
  | cons m ms ih =>
    rw [List.reverse_cons, total_append, ih, UInt64.add_comm]
    exact (total_cons m ms).symm

/-- Some series of some instruments, added up. -/
def tally (figures : List (Instrument × Labels)) (ms : List Measurement) : UInt64 :=
  (figures.map fun figure => total figure.1 figure.2 ms).sum

variable {figures : List (Instrument × Labels)}

theorem tally_cons (figure : Instrument × Labels) (ms : List Measurement) :
    tally (figure :: figures) ms = total figure.1 figure.2 ms + tally figures ms := rfl

theorem tally_singleton (figure : Instrument × Labels) (ms : List Measurement) :
    tally [figure] ms = total figure.1 figure.2 ms := UInt64.add_zero _

@[simp] theorem tally_nil : tally figures [] = 0 := by
  induction figures with
  | nil => rfl
  | cons figure figures ih => exact (UInt64.zero_add _).trans ih

/-- So do tallies. -/
theorem tally_append (ms more : List Measurement) :
    tally figures (ms ++ more) = tally figures ms + tally figures more := by
  induction figures with
  | nil => rfl
  | cons figure figures ih =>
    simp only [tally, List.map_cons, List.sum_cons, total_append] at ih ⊢
    rw [ih]
    ac_rfl

end Totals

/-- An effect is one for instruments of its kind. -/
def Effect.Fits : Effect → Prop
  | .add i _ _ => i.kind = .counter
  | .set i _ _ => i.kind = .gauge
  | .observe i _ _ => i.kind = .histogram

private theorem fits_effects (m : Measurement) : ∀ e ∈ effects m, e.Fits := by
  cases m with
  | cacheRefresh result entries => cases entries <;> simp [effects, Effect.Fits, Instrument.kind]
  | usageEvents result count =>
    intro e he
    rw [effects] at he
    split at he
    · cases he
    · cases List.mem_singleton.mp he
      rfl
  | _ => simp [effects, Effect.Fits, Instrument.kind]

private theorem fits_flatMap (ms : List Measurement) : ∀ e ∈ ms.flatMap effects, e.Fits := by
  intro e he
  obtain ⟨m, -, hm⟩ := List.mem_flatMap.mp he
  exact fits_effects m e hm

namespace Registry

section Update

variable {s t : Series} {f : Option Cell → Cell} {cells : List (Series × Cell)}

private theorem mem_update {c : Series × Cell} (h : c ∈ update s f cells) :
    c ∈ cells ∨ c.1 = s ∧ (c.2 = f none ∨ ∃ old, (s, old) ∈ cells ∧ c.2 = f (some old)) := by
  induction cells with
  | nil =>
    cases List.mem_singleton.mp h
    exact .inr ⟨rfl, .inl rfl⟩
  | cons d cells ih =>
    obtain ⟨u, old⟩ := d
    rw [update] at h
    split at h
    next hsame =>
      subst hsame
      rcases List.mem_cons.mp h with rfl | h
      · exact .inr ⟨rfl, .inr ⟨old, List.mem_cons_self, rfl⟩⟩
      · exact .inl (List.mem_cons_of_mem _ h)
    next =>
      rcases List.mem_cons.mp h with rfl | h
      · exact .inl List.mem_cons_self
      · rcases ih h with h | ⟨hs, hnone | ⟨old, hold, hsome⟩⟩
        · exact .inl (List.mem_cons_of_mem _ h)
        · exact .inr ⟨hs, .inl hnone⟩
        · exact .inr ⟨hs, .inr ⟨old, List.mem_cons_of_mem _ hold, hsome⟩⟩

-- The numbers of some of the series, added up.
private def sumOf (p : Series → Bool) (cells : List (Series × Cell)) : UInt64 :=
  ((cells.filter fun c => p c.1).map fun c => c.2.value).sum

private theorem sumOf_cons (p : Series → Bool) (c : Series × Cell) (cells : List (Series × Cell)) :
    sumOf p (c :: cells) = (if p c.1 then c.2.value else 0) + sumOf p cells := by
  rw [sumOf, List.filter_cons]
  split
  next => rw [List.map_cons, List.sum_cons, sumOf]
  next => rw [UInt64.zero_add, sumOf]

private theorem sumOf_update {p : Series → Bool} {n : UInt64}
    (hnew : (f none).value = n)
    (hold : ∀ old, (s, old) ∈ cells → (f (some old)).value = old.value + n) :
    sumOf p (update s f cells) = sumOf p cells + if p s then n else 0 := by
  induction cells with
  | nil => rw [update, sumOf_cons, hnew, UInt64.add_comm]
  | cons d cells ih =>
    obtain ⟨u, old⟩ := d
    rw [update]
    split
    next hsame =>
      subst hsame
      rw [sumOf_cons, sumOf_cons, hold old List.mem_cons_self]
      split
      next => ac_rfl
      next => rw [UInt64.add_zero]
    next =>
      rw [sumOf_cons, sumOf_cons, ih fun old h => hold old (List.mem_cons_of_mem _ h),
        UInt64.add_assoc]

private theorem sumOf_update_of_not {p : Series → Bool} (hp : p s = false) :
    sumOf p (update s f cells) = sumOf p cells := by
  induction cells with
  | nil => rw [update, sumOf_cons, hp]; rfl
  | cons d cells ih =>
    obtain ⟨u, old⟩ := d
    rw [update]
    split
    next hsame =>
      subst hsame
      rw [sumOf_cons, sumOf_cons, hp]
      rfl
    next => rw [sumOf_cons, sumOf_cons, ih]

private theorem find?_update_of_ne (h : s ≠ t) :
    (update s f cells).find? (·.1 = t) = cells.find? (·.1 = t) := by
  induction cells with
  | nil => rw [update, List.find?_cons_of_neg (by simpa using h)]
  | cons d cells ih =>
    obtain ⟨u, old⟩ := d
    rw [update]
    split
    next hsame =>
      subst hsame
      rw [List.find?_cons_of_neg (by simpa using h), List.find?_cons_of_neg (by simpa using h)]
    next => rw [List.find?_cons, List.find?_cons, ih]

private theorem find?_update_const (c : Cell) :
    (update s (fun _ => c) cells).find? (·.1 = s) = some (s, c) := by
  induction cells with
  | nil => rw [update, List.find?_cons_of_pos (by simp)]
  | cons d cells ih =>
    obtain ⟨u, old⟩ := d
    rw [update]
    split
    next hsame =>
      subst hsame
      rw [List.find?_cons_of_pos (by simp)]
    next hother => rw [List.find?_cons_of_neg (by simpa using hother), ih]

end Update

/-- The series of counters have numbers. -/
def Counts (r : Registry) : Prop :=
  ∀ c ∈ r.cells, c.1.instrument.kind = .counter → ∃ n, c.2 = .number n

variable {r : Registry} {e : Effect} {i : Instrument} {selector : Labels}

private theorem isOf_of_kind {s : Series} (h : s.instrument.kind ≠ i.kind) :
    s.isOf i selector = false := by
  have hne : s.instrument ≠ i := by
    rintro rfl
    exact h rfl
  simp [Series.isOf, hne]

private theorem counts_apply (h : r.Counts) (he : e.Fits) : (r.apply e).Counts := by
  intro c hc hkind
  cases e with
  | add j labels n =>
    rcases mem_update hc with hc | ⟨hseries, hnew | ⟨old, hold, hsum⟩⟩
    · exact h c hc hkind
    · exact ⟨n, hnew⟩
    · obtain ⟨m, rfl⟩ := h _ hold (hseries ▸ hkind)
      exact ⟨m + n, hsum⟩
  | set j labels n | observe j labels seconds =>
    rcases mem_update hc with hc | ⟨hseries, -⟩
    · exact h c hc hkind
    · rw [hseries, show (⟨j, labels⟩ : Series).instrument.kind = _ from he] at hkind
      cases hkind

private theorem sum_apply (h : r.Counts) (he : e.Fits) (hi : i.kind = .counter) :
    (r.apply e).sum i selector = r.sum i selector + e.amount i selector := by
  cases e with
  | add j labels n =>
    refine sumOf_update (p := (·.isOf i selector)) rfl fun old hold => ?_
    obtain ⟨m, rfl⟩ := h _ hold he
    rfl
  | set j labels n | observe j labels seconds =>
    have hother : (⟨j, labels⟩ : Series).isOf i selector = false := by
      apply isOf_of_kind
      rw [hi, show (⟨j, labels⟩ : Series).instrument.kind = _ from he]
      decide
    exact (sumOf_update_of_not (p := (·.isOf i selector)) hother).trans (UInt64.add_zero _).symm

private theorem sum_foldl (h : r.Counts) (hi : i.kind = .counter) {effects : List Effect}
    (he : ∀ e ∈ effects, e.Fits) :
    (effects.foldl apply r).sum i selector =
      r.sum i selector + (effects.map (Effect.amount i selector)).sum := by
  induction effects generalizing r with
  | nil => exact (UInt64.add_zero _).symm
  | cons e effects ih =>
    have hfits := he e List.mem_cons_self
    rw [List.foldl_cons, ih (counts_apply h hfits) fun e' he' => he e' (List.mem_cons_of_mem _ he'),
      sum_apply h hfits hi, List.map_cons, List.sum_cons, UInt64.add_assoc]

private theorem recordAll_eq_foldl (r : Registry) (ms : List Measurement) :
    r.recordAll ms = (ms.flatMap effects).foldl apply r := by
  rw [List.foldl_flatMap]
  rfl

/-- A counter's series add up to what the measurements add to them. -/
theorem sum_recordAll (hi : i.kind = .counter) (ms : List Measurement) :
    (initial.recordAll ms).sum i selector = total i selector ms := by
  have hcounts : initial.Counts := by
    intro c hc _
    cases List.mem_singleton.mp hc
    exact ⟨1, rfl⟩
  have hempty : initial.sum i selector = 0 := by
    refine (sumOf_cons (·.isOf i selector) _ []).trans ?_
    rw [isOf_of_kind (by rw [hi]; decide)]
    rfl
  rw [recordAll_eq_foldl, sum_foldl hcounts hi (fits_flatMap ms), hempty, UInt64.zero_add]
  rfl

private theorem value?_apply {s : Series} (hs : s.instrument.kind = .gauge) (he : e.Fits) :
    (r.apply e).value? s = (e.setting? s).or (r.value? s) := by
  cases e with
  | set j labels n =>
    by_cases hseries : (⟨j, labels⟩ : Series) = s
    · subst hseries
      rw [Effect.setting?, if_pos rfl]
      exact congrArg (Option.map _) (find?_update_const (.number n))
    · rw [Effect.setting?, if_neg hseries]
      exact congrArg (Option.map _) (find?_update_of_ne hseries)
  | add j labels n | observe j labels seconds =>
    have hseries : (⟨j, labels⟩ : Series) ≠ s := by
      rintro rfl
      rw [show (⟨j, labels⟩ : Series).instrument.kind = _ from he] at hs
      cases hs
    exact congrArg (Option.map _) (find?_update_of_ne hseries)

private theorem value?_foldl {s : Series} (hs : s.instrument.kind = .gauge) {effects : List Effect}
    (he : ∀ e ∈ effects, e.Fits) :
    (effects.foldl apply r).value? s =
      (effects.filterMap (Effect.setting? s)).getLast?.or (r.value? s) := by
  induction effects using List.reverseRecOn with
  | nil => rfl
  | append_singleton effects e ih =>
    rw [List.foldl_append, List.foldl_cons, List.foldl_nil,
      value?_apply hs (he e (List.mem_append_right _ List.mem_cons_self)),
      ih fun e' he' => he e' (List.mem_append_left _ he'), List.filterMap_append,
      List.getLast?_append, Option.or_assoc]
    cases hset : e.setting? s <;> simp [hset]

/-- A gauge that is not there from the start has what was set last. -/
theorem value?_recordAll {s : Series} (hs : s.instrument.kind = .gauge)
    (hnew : initial.value? s = none) (ms : List Measurement) :
    (initial.recordAll ms).value? s = latest s ms := by
  rw [recordAll_eq_foldl, value?_foldl hs (fits_flatMap ms), hnew, Option.or_none, latest]

end Registry

end TenantGateway.Metrics
