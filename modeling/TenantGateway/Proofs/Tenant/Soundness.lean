import TenantGateway.Proofs.Tenant.Cache
import TenantGateway.Proofs.Tenant.Runs
import Mathlib.Data.List.Induction

/-! The cache holds what the directory has said last, and nobody is granted anything else. At every
moment the cache is the last snapshot overlaid by the later single answers, which is read off the
journal; the calls that wait hold entries that the directory has vouched for. -/
namespace TenantGateway.Tenant

/-- The directory has given the entry's record, at the instant from which the entry's time counts. -/
def Vouched (ttlSeconds : Nat) (journal : List Ending) (e : Entry) : Prop :=
  ∃ ending ∈ journal, ending.given? e.fingerprint = some e.record ∧
    e.expiresAt = ending.time + Duration.ofSeconds ttlSeconds

private theorem Vouched.cons {ttlSeconds : Nat} {journal : List Ending} {e : Entry}
    (h : Vouched ttlSeconds journal e) (ending : Ending) :
    Vouched ttlSeconds (ending :: journal) e := by
  obtain ⟨x, hx, hgiven⟩ := h
  exact ⟨x, List.mem_cons_of_mem _ hx, hgiven⟩

/-- What an entry that a call has been granted rests on: the call's own question, an entry that was
good when the call looked at the cache, or an old entry because the directory has failed. -/
def Call.Justified (ttlSeconds : Nat) (c : Call) (earlier : List Ending) : Prop :=
  ∀ e, c.verdict = .granted e →
    e.fingerprint = c.fingerprint ∧ Vouched ttlSeconds (.call c :: earlier) e ∧
      ((∃ r, c.own = some (.ok (some r)) ∧ e = .given ttlSeconds c.fingerprint r c.time) ∨
        (c.own = none ∧ c.asked < e.expiresAt) ∨
        ∃ error, c.own = some (.error error))

private theorem latest?_eq_some {f : Fingerprint} {journal : List Ending} {r : Record} {t : Instant}
    (horder : journal.Pairwise fun later earlier => earlier.time ≤ later.time)
    (h : latest? f journal = some (r, t)) :
    (∃ ending ∈ journal, ending.given? f = some r ∧ ending.time = t) ∧
      ∀ ending ∈ journal, ending.isRefresh → ending.time ≤ t := by
  induction journal with
  | nil => cases h
  | cons ending journal ih =>
    rw [List.pairwise_cons] at horder
    rw [latest?] at h
    cases hgiven : ending.given? f with
    | some r' =>
      rw [hgiven] at h
      cases h
      refine ⟨⟨ending, List.mem_cons_self, hgiven, rfl⟩, ?_⟩
      intro x hx _
      rcases List.mem_cons.mp hx with rfl | hx
      · exact Nat.le_refl _
      · exact horder.1 x hx
    | none =>
      simp only [hgiven] at h
      by_cases hrefresh : ending.isRefresh
      · rw [if_pos hrefresh] at h
        cases h
      · rw [if_neg hrefresh] at h
        obtain ⟨⟨x, hx, hr⟩, hrefreshes⟩ := ih horder.2 h
        refine ⟨⟨x, List.mem_cons_of_mem _ hx, hr⟩, ?_⟩
        intro y hy hyrefresh
        rcases List.mem_cons.mp hy with rfl | hy
        · exact absurd hyrefresh hrefresh
        · exact hrefreshes y hy hyrefresh

namespace Desk

/-- What every desk upholds. -/
structure Sound (ttlSeconds : Nat) (d : Desk) : Prop where
  key : ∀ (f : Fingerprint) (e : Entry), d.cache.entries[f]? = some e → e.fingerprint = f
  /-- An entry is the directory's word from the instant at which its time began, and no refresh has
  ended since. -/
  source : ∀ (f : Fingerprint) (e : Entry), d.cache.entries[f]? = some e → ∃ t : Instant,
    e.expiresAt = t + Duration.ofSeconds ttlSeconds ∧
      (∃ ending ∈ d.journal, ending.given? f = some e.record ∧ ending.time = t) ∧
      ∀ ending ∈ d.journal, ending.isRefresh → ending.time ≤ t
  /-- The last snapshot, overlaid by the later single answers. -/
  overlay : ∀ f : Fingerprint, d.cache.entries[f]? =
    (latest? f d.journal).map fun (r, t) => Entry.given ttlSeconds f r t
  granted : ∀ c earlier, (.call c :: earlier) <:+ d.journal → c.Justified ttlSeconds earlier

/-- The invariant of all runs. -/
structure Tracked (ttlSeconds : Nat) (d : Desk) : Prop where
  ttl : d.ttlSeconds = ttlSeconds
  cycleTtl : d.refresher.ttlSeconds = ttlSeconds
  overlay : ∀ f : Fingerprint, d.cache.entries[f]? =
    (latest? f d.journal).map fun (r, t) => Entry.given ttlSeconds f r t
  past : ∀ ending ∈ d.journal, ending.time ≤ d.now
  order : d.journal.Pairwise fun later earlier => earlier.time ≤ later.time
  waiting : ∀ w ∈ d.waiting, w.fingerprint = .ofCredential (Text.trim w.credential) ∧
    ∀ e, w.stale = some e → e.fingerprint = w.fingerprint ∧ Vouched ttlSeconds d.journal e
  granted : ∀ c earlier, (.call c :: earlier) <:+ d.journal → c.Justified ttlSeconds earlier

variable {ttlSeconds : Nat} {d : Desk}

private theorem Tracked.entry (h : Tracked ttlSeconds d) {f : Fingerprint} {e : Entry}
    (he : d.cache.entries[f]? = some e) : ∃ r t, latest? f d.journal = some (r, t) ∧
      e = .given ttlSeconds f r t := by
  rw [h.overlay] at he
  obtain ⟨⟨r, t⟩, hlatest, rfl⟩ := Option.map_eq_some_iff.mp he
  exact ⟨r, t, hlatest, rfl⟩

private theorem Tracked.vouched (h : Tracked ttlSeconds d) {f : Fingerprint} {e : Entry}
    (he : d.cache.entries[f]? = some e) :
    e.fingerprint = f ∧ Vouched ttlSeconds d.journal e := by
  obtain ⟨r, t, hlatest, rfl⟩ := h.entry he
  obtain ⟨⟨ending, hmem, hgiven, rfl⟩, -⟩ := latest?_eq_some h.order hlatest
  exact ⟨rfl, ending, hmem, hgiven, rfl⟩

/-- A desk whose journal is kept is sound. -/
theorem Tracked.sound (h : Tracked ttlSeconds d) : Sound ttlSeconds d where
  key := fun _ _ he => (h.vouched he).1
  source := by
    intro f e he
    obtain ⟨r, t, hlatest, rfl⟩ := h.entry he
    exact ⟨t, rfl, latest?_eq_some h.order hlatest⟩
  overlay := h.overlay
  granted := h.granted

private theorem tracked_open (ttlSeconds : Nat) (fetchTimeout : Duration) :
    Tracked ttlSeconds (open_ ttlSeconds fetchTimeout) where
  ttl := rfl
  cycleTtl := rfl
  overlay := fun _ => Std.ExtTreeMap.getElem?_empty
  past := by simp [open_]
  order := .nil
  waiting := by simp [open_]
  granted := by simp [open_]

private theorem Tracked.noted (h : Tracked ttlSeconds d) {ending : Ending} {cache : Cache}
    {refresher : Refresher} {waiting : List Waiting} (hnow : ending.time = d.now)
    (hcycle : refresher.ttlSeconds = ttlSeconds) (hwaiting : waiting ⊆ d.waiting)
    (hoverlay : ∀ f : Fingerprint, cache.entries[f]? =
      (latest? f (ending :: d.journal)).map fun (r, t) => Entry.given ttlSeconds f r t)
    (hcall : ∀ c, ending = .call c → c.Justified ttlSeconds d.journal) :
    Tracked ttlSeconds
      { d with cache, refresher, waiting, journal := ending :: d.journal } where
  ttl := h.ttl
  cycleTtl := hcycle
  overlay := hoverlay
  past := by
    intro x hx
    rcases List.mem_cons.mp hx with rfl | hx
    · exact Nat.le_of_eq (congrArg Instant.nanos hnow)
    · exact h.past x hx
  order := by
    refine List.pairwise_cons.mpr ⟨?_, h.order⟩
    intro x hx
    rw [hnow]
    exact h.past x hx
  waiting := by
    intro w hw
    obtain ⟨hf, hstale⟩ := h.waiting w (hwaiting hw)
    refine ⟨hf, ?_⟩
    intro e he
    obtain ⟨hfe, hvouched⟩ := hstale e he
    exact ⟨hfe, hvouched.cons ending⟩
  granted := by
    intro c earlier hsuffix
    rcases List.suffix_cons_iff.mp hsuffix with heq | hsuffix
    · obtain ⟨rfl, rfl⟩ := List.cons.inj heq
      exact hcall c rfl
    · exact h.granted c earlier hsuffix

private theorem latest?_cons_of_nothing {ending : Ending} (hgiven : ∀ f, ending.given? f = none)
    (hrefresh : ending.isRefresh = false) (f : Fingerprint) (journal : List Ending) :
    latest? f (ending :: journal) = latest? f journal := by
  rw [latest?, hgiven f]
  simp only [hrefresh, Bool.false_eq_true, if_false]

private theorem Tracked.ask (h : Tracked ttlSeconds d) (credential : String) :
    Tracked ttlSeconds (d.ask credential) := by
  have hdone : ∀ verdict, (d.cache.inquire credential d.now).1 = .done verdict →
      (∀ e, verdict = .granted e → e.fingerprint = .ofCredential (Text.trim credential) ∧
        Vouched ttlSeconds d.journal e ∧ d.now < e.expiresAt) →
      Tracked ttlSeconds (d.ask credential) := by
    intro verdict hinquire hgranted
    rw [Desk.ask, hinquire]
    refine h.noted rfl h.cycleTtl (List.Subset.refl _) ?_ ?_
    · intro f
      rw [latest?_cons_of_nothing (fun _ => rfl) rfl]
      exact h.overlay f
    · intro c hc e he
      cases hc
      obtain ⟨hf, hvouched, hgood⟩ := hgranted e he
      exact ⟨hf, hvouched.cons _, .inr (.inl ⟨rfl, hgood⟩)⟩
  have hask : ∀ stale, (d.cache.inquire credential d.now).1 =
        .ask (.ofCredential (Text.trim credential)) stale →
      (∀ e, stale = some e →
        d.cache.entries[Fingerprint.ofCredential (Text.trim credential)]? = some e) →
      Tracked ttlSeconds (d.ask credential) := by
    intro stale hinquire hstale
    rw [Desk.ask, hinquire]
    exact { h with
      waiting := by
        intro w hw
        rcases List.mem_append.mp hw with hw | hw
        · exact h.waiting w hw
        · rw [List.mem_singleton.mp hw]
          exact ⟨rfl, fun e he => h.vouched (hstale e he)⟩ }
  rcases d.cache.inquire_cases credential d.now with ⟨-, hinquire⟩ | ⟨f, rfl, hfound⟩
  · refine hdone _ hinquire ?_
    intro e he
    cases he
  · rcases hfound with ⟨e, he, hgood, hinquire⟩ | ⟨e, he, -, hinquire⟩ | ⟨-, hinquire⟩
    · refine hdone _ hinquire ?_
      intro e' he'
      cases he'
      obtain ⟨hf, hvouched⟩ := h.vouched he
      exact ⟨hf, hvouched, hgood⟩
    · refine hask _ hinquire ?_
      intro e' he'
      cases he'
      exact he
    · refine hask _ hinquire ?_
      intro e' he'
      cases he'

private theorem Tracked.endCycle (h : Tracked ttlSeconds d)
    (answer : Except RefreshError Snapshot) : Tracked ttlSeconds (d.endCycle answer) := by
  have hcall : ∀ outcome c, Ending.cycle ⟨answer, outcome, d.now⟩ = .call c →
      c.Justified ttlSeconds d.journal := by
    intro outcome c hc
    cases hc
  have hcases := d.refresher.complete_cases d.cache d.now answer
  rcases hcases with ⟨e, rfl, hend⟩ | ⟨s, entries, rfl, hend, hentries⟩ | ⟨s, rfl, -, hend⟩
  · rw [Desk.endCycle, hend]
    refine h.noted rfl h.cycleTtl (List.Subset.refl _) ?_ (hcall _)
    intro f
    rw [latest?_cons_of_nothing (fun _ => rfl) rfl]
    exact h.overlay f
  · rw [Desk.endCycle, hend]
    refine h.noted rfl h.cycleTtl (List.Subset.refl _) ?_ (hcall _)
    intro f
    have hlatest : latest? f (.cycle ⟨.ok s, .refreshed, d.now⟩ :: d.journal) =
        s[f]?.map fun r => (r, d.now) := by
      simp only [latest?, Ending.given?, Ending.time, Ending.isRefresh, if_true]
      cases s[f]? <;> rfl
    rw [hlatest, Option.map_map, ← h.cycleTtl]
    exact hentries f
  · rw [Desk.endCycle, hend]
    refine h.noted rfl h.cycleTtl (List.Subset.refl _) ?_ (hcall _)
    intro f
    rw [latest?_cons_of_nothing (fun _ => rfl) rfl]
    exact h.overlay f

/-- The answer to a call that waits settles it. -/
theorem reply_of_waiting {place : Nat} {w : Waiting} (hw : d.waiting[place]? = some w)
    (answer : Except DirectoryError (Option Record)) :
    d.reply place answer =
      { d with
        cache := (d.cache.settle d.ttlSeconds w.fingerprint w.stale d.now answer).2
        waiting := d.waiting.eraseIdx place
        journal := .call ⟨w.credential, w.asked, some answer,
          (d.cache.settle d.ttlSeconds w.fingerprint w.stale d.now answer).1, d.now⟩ ::
          d.journal } := by
  rw [reply, hw]

private theorem Tracked.reply (h : Tracked ttlSeconds d) (place : Nat)
    (answer : Except DirectoryError (Option Record)) :
    Tracked ttlSeconds (d.reply place answer) := by
  cases hw : d.waiting[place]? with
  | none =>
    have hstays : d.reply place answer = d := by rw [Desk.reply, hw]
    rwa [hstays]
  | some w =>
    obtain ⟨hf, hstale⟩ := h.waiting w (List.mem_of_getElem? hw)
    have herase : d.waiting.eraseIdx place ⊆ d.waiting := List.eraseIdx_subset
    have hkept : ∀ verdict,
        d.cache.settle d.ttlSeconds w.fingerprint w.stale d.now answer = (verdict, d.cache) →
        (∀ f, (Ending.call ⟨w.credential, w.asked, some answer, verdict, d.now⟩).given? f = none) →
        (∀ e, verdict = .granted e → w.stale = some e ∧ ∃ error, answer = .error error) →
        Tracked ttlSeconds (d.reply place answer) := by
      intro verdict hsettle hgiven hgranted
      rw [reply_of_waiting hw, hsettle]
      refine h.noted rfl h.cycleTtl herase ?_ ?_
      · intro f
        rw [latest?_cons_of_nothing hgiven rfl]
        exact h.overlay f
      · intro c hc e he
        cases hc
        obtain ⟨hold, error, hanswer⟩ := hgranted e he
        obtain ⟨hfe, hvouched⟩ := hstale e hold
        exact ⟨hfe.trans hf, hvouched.cons _, .inr (.inr ⟨error, congrArg some hanswer⟩)⟩
    rcases d.cache.settle_cases d.ttlSeconds w.fingerprint w.stale d.now answer with
      ⟨r, rfl, hsettle⟩ | ⟨r, rfl, -, hsettle⟩ | ⟨rfl, hsettle⟩ | ⟨error, e, rfl, hold, hsettle⟩ |
      ⟨error, rfl, -, hsettle⟩
    · conv_rhs at hsettle => rw [h.ttl, hf]
      rw [reply_of_waiting hw, hsettle]
      have hgiven : ∀ f, (Ending.call ⟨w.credential, w.asked, some (.ok (some r)),
          .granted (.given ttlSeconds (.ofCredential (Text.trim w.credential)) r d.now),
          d.now⟩).given? f =
          if Fingerprint.ofCredential (Text.trim w.credential) = f then some r else none :=
        fun _ => rfl
      refine h.noted rfl h.cycleTtl herase ?_ ?_
      · intro f
        rw [Cache.getElem?_upsert, latest?, hgiven]
        by_cases hsame : Fingerprint.ofCredential (Text.trim w.credential) = f
        · subst hsame
          simp only [Entry.given, if_true, Ending.time, Option.map_some]
        · simp only [Entry.given, hsame, if_false, Ending.isRefresh, Bool.false_eq_true]
          exact h.overlay f
      · intro c hc e he
        cases hc
        cases he
        exact ⟨rfl, ⟨_, List.mem_cons_self, (hgiven _).trans (if_pos rfl), rfl⟩,
          .inl ⟨r, rfl, rfl⟩⟩
    · refine hkept _ hsettle ?_ ?_
      · exact fun _ => rfl
      · intro e he
        cases he
    · refine hkept _ hsettle ?_ ?_
      · exact fun _ => rfl
      · intro e he
        cases he
    · refine hkept _ hsettle ?_ ?_
      · exact fun _ => rfl
      · intro e' he
        cases he
        exact ⟨hold, error, rfl⟩
    · refine hkept _ hsettle ?_ ?_
      · exact fun _ => rfl
      · intro e he
        cases he

private theorem Tracked.advance (h : Tracked ttlSeconds d) (span : Duration) :
    Tracked ttlSeconds { d with now := d.now + span } :=
  { h with
    past := by
      intro x hx
      exact Nat.le_trans (h.past x hx) (Nat.le_add_right _ _) }

private theorem Tracked.step (h : Tracked ttlSeconds d) (a : Action) :
    Tracked ttlSeconds (d.step a) := by
  cases a with
  | advance span => exact h.advance span
  | ask credential => exact h.ask credential
  | reply place answer => exact h.reply place answer
  | beginCycle => exact { h with }
  | endCycle answer => exact h.endCycle answer

/-- The journal of every run is kept. -/
theorem tracked_run (ttlSeconds : Nat) (fetchTimeout : Duration) (actions : List Action) :
    Tracked ttlSeconds (run ttlSeconds fetchTimeout actions) := by
  induction actions using List.reverseRecOn with
  | nil => exact tracked_open ttlSeconds fetchTimeout
  | append_singleton actions a ih =>
    rw [run_snoc]
    exact ih.step a

/-- What an authentication may do to the cache: a look at it changes nothing, and an answer of the
directory changes one entry, or nothing when the caller is denied or has an old entry. -/
structure Confined (d : Desk) : Prop where
  ask : ∀ credential, (d.ask credential).cache = d.cache
  reply : ∀ place answer w, d.waiting[place]? = some w → ∃ c,
    (d.reply place answer).journal = .call c :: d.journal ∧
      c.credential = w.credential ∧ c.own = some answer ∧
      (d.reply place answer).cache.generation = d.cache.generation ∧
      (∀ f, f ≠ c.fingerprint →
        (d.reply place answer).cache.entries[f]? = d.cache.entries[f]?) ∧
      ((∃ error, c.verdict = .denied error) ∨
          (∃ e error, c.verdict = .granted e ∧ answer = .error error) →
        (d.reply place answer).cache = d.cache)

private theorem Tracked.confined (h : Tracked ttlSeconds d) : Confined d where
  ask := by
    intro credential
    rw [Desk.ask]
    split <;> rfl
  reply := by
    intro place answer w hw
    have hname := (h.waiting w (List.mem_of_getElem? hw)).1
    rw [reply_of_waiting hw]
    refine ⟨_, rfl, rfl, rfl, ?_⟩
    rcases d.cache.settle_cases d.ttlSeconds w.fingerprint w.stale d.now answer with
      ⟨r, rfl, hsettle⟩ | ⟨r, rfl, -, hsettle⟩ | ⟨rfl, hsettle⟩ | ⟨error, e, rfl, -, hsettle⟩ |
      ⟨error, rfl, -, hsettle⟩
    · rw [hsettle]
      refine ⟨rfl, ?_, ?_⟩
      · intro f hf
        have hother : w.fingerprint ≠ f := fun hsame => hf (hsame.symm.trans hname)
        rw [Cache.getElem?_upsert]
        exact if_neg hother
      · rintro (⟨error, hdenied⟩ | ⟨e, error, -, hanswer⟩)
        · cases hdenied
        · cases hanswer
    all_goals
      rw [hsettle]
      exact ⟨rfl, fun _ _ => rfl, fun _ => rfl⟩

/-- Whatever the directory does and however calls and cycles meet, the cache holds the directory's
latest word under the right names, what is granted rests on it, and no call disturbs the entry of
another. -/
theorem sound_and_confined (ttlSeconds : Nat) (fetchTimeout : Duration) (actions : List Action) :
    Sound ttlSeconds (run ttlSeconds fetchTimeout actions) ∧
      Confined (run ttlSeconds fetchTimeout actions) :=
  ⟨(tracked_run ttlSeconds fetchTimeout actions).sound,
    (tracked_run ttlSeconds fetchTimeout actions).confined⟩

end Desk

end TenantGateway.Tenant
