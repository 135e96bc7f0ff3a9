import TenantGateway.Proofs.Tenant.Rejection

/-! How the cache spares the directory. A call asks for its key once if it has one and finds no good
entry, and never otherwise; once a question has found the key, the next one for it comes when the new
entry's time is over. Refreshes in between can only lengthen that time, as long as they list the key.
Where the clock cannot represent the end of the entry, nothing is kept, and the next call asks
again. -/
namespace TenantGateway.Tenant

/-- Whether a call has to ask the directory: it has a credential, and no good entry for it. -/
def Cache.asks (c : Cache) (credential : String) (now : Instant) : Bool :=
  !(Text.trim credential).isEmpty &&
    !(c.lookup (.ofCredential (Text.trim credential)) now).isHit

/-- Whatever a cycle has been given, the key is among it. -/
def Ending.Lists (f : Fingerprint) : Ending → Prop
  | .call _ => True
  | .cycle c => ∀ s, c.answer = .ok s → f ∈ s

/-- Two questions for a key that stays in the directory, of which the earlier has found it, are the
life of an entry apart. -/
def Spaced (ttlSeconds : Nat) (journal : List Ending) : Prop :=
  ∀ (newer between older : List Ending) (later earlier : Call) (r : Record),
    journal = newer ++ .call later :: (between ++ .call earlier :: older) →
      later.fingerprint = earlier.fingerprint → later.own.isSome →
        earlier.own = some (.ok (some r)) →
          (∀ ending ∈ between, ending.Lists earlier.fingerprint) →
            earlier.time + Duration.ofSeconds ttlSeconds ≤ later.asked

/-- What a call that meets no other has to do with its question: it asks when the entry it finds is
no longer good, and keeps what it is given if the clock can represent the end of that. -/
structure Call.Sparing (ttlSeconds : Nat) (c : Call) (earlier : List Ending) : Prop where
  lapsed : c.own.isSome → ∀ e, held? ttlSeconds c.fingerprint earlier = some e →
    e.expiresAt ≤ c.asked
  found : ∀ r, c.own = some (.ok (some r)) →
    (c.time + Duration.ofSeconds ttlSeconds).InRange ∧
        c.verdict = .granted (.given ttlSeconds c.fingerprint r c.time) ∨
      ¬(c.time + Duration.ofSeconds ttlSeconds).InRange ∧ c.verdict = .deadlineOverflow

/-- A cycle succeeds only with a snapshot. -/
def Ending.Answered : Ending → Prop
  | .call _ => True
  | .cycle c => c.outcome = .refreshed → ∃ s, c.answer = .ok s

private theorem given?_of_lists {f : Fingerprint} {ending : Ending} (hanswered : ending.Answered)
    (hlists : ending.Lists f) (hrefresh : ending.isRefresh) : ∃ r, ending.given? f = some r := by
  match ending with
  | .cycle ⟨answer, .refreshed, time⟩ =>
    obtain ⟨s, hanswer⟩ := hanswered rfl
    have hs : answer = .ok s := hanswer
    subst hs
    exact Option.isSome_iff_exists.mp (Std.ExtTreeMap.mem_iff_isSome_getElem?.mp (hlists s rfl))

private theorem given?_of_granted {c : Call} {r : Record} {e : Entry}
    (hown : c.own = some (.ok (some r))) (hverdict : c.verdict = .granted e) :
    (Ending.call c).given? c.fingerprint = some r := by
  obtain ⟨credential, asked, own, verdict, time⟩ := c
  subst hown hverdict
  exact if_pos rfl

private theorem latest?_append_of_lists {f : Fingerprint} {between journal : List Ending}
    {r : Record} {t : Instant} (hanswered : ∀ ending ∈ between, ending.Answered)
    (hlists : ∀ ending ∈ between, ending.Lists f) (horder : ∀ ending ∈ between, t ≤ ending.time)
    (h : latest? f journal = some (r, t)) :
    ∃ r' t', latest? f (between ++ journal) = some (r', t') ∧ t ≤ t' := by
  induction between with
  | nil => exact ⟨r, t, h, Nat.le_refl _⟩
  | cons ending between ih =>
    rw [List.forall_mem_cons] at hanswered hlists horder
    rw [List.cons_append, latest?]
    cases hgiven : ending.given? f with
    | some r' => exact ⟨r', ending.time, rfl, horder.1⟩
    | none =>
      have hrefresh : ¬ending.isRefresh := by
        intro hrefresh
        obtain ⟨r', hr'⟩ := given?_of_lists hanswered.1 hlists.1 hrefresh
        cases hgiven.symm.trans hr'
      simp only [hrefresh, if_false, Bool.false_eq_true]
      exact ih hanswered.2 hlists.2 horder.2

section Question

variable {c : Cache} {credential : String} {now : Instant}

private theorem inquire_of_asks (h : c.asks credential now = true) : ∃ stale,
    (c.inquire credential now).1 = .ask (.ofCredential (Text.trim credential)) stale := by
  rw [Cache.asks, Bool.and_eq_true, Bool.not_eq_true', Bool.not_eq_true'] at h
  obtain ⟨hblank, hhit⟩ := h
  simp only [Cache.inquire, hblank, Bool.false_eq_true, if_false]
  cases hfound : c.lookup (.ofCredential (Text.trim credential)) now with
  | hit e =>
    rw [hfound] at hhit
    cases hhit
  | expired e => exact ⟨some e, rfl⟩
  | miss => exact ⟨none, rfl⟩

private theorem inquire_of_not_asks (h : c.asks credential now = false) :
    ∃ verdict, (c.inquire credential now).1 = .done verdict := by
  by_cases hblank : (Text.trim credential).isEmpty
  · refine ⟨.denied .missing, ?_⟩
    simp only [Cache.inquire, hblank, if_true]
  · rw [Bool.not_eq_true] at hblank
    simp only [Cache.asks, hblank, Bool.not_false, Bool.true_and, Bool.not_eq_false'] at h
    simp only [Cache.inquire, hblank, Bool.false_eq_true, if_false]
    cases hfound : c.lookup (.ofCredential (Text.trim credential)) now with
    | hit e => exact ⟨.granted e, rfl⟩
    | expired e =>
      rw [hfound] at h
      cases h
    | miss =>
      rw [hfound] at h
      cases h

private theorem answer_of_refreshed {r : Refresher} {answer : Except RefreshError Snapshot}
    (h : (r.complete c now answer).1 = .refreshed) : ∃ s, answer = .ok s := by
  rcases r.complete_cases c now answer with
    ⟨e, -, hend⟩ | ⟨s, -, hanswer, -⟩ | ⟨s, hanswer, -⟩
  · rw [hend] at h
    cases h
  · exact ⟨s, hanswer⟩
  · exact ⟨s, hanswer⟩

end Question

namespace Desk

variable {ttlSeconds : Nat} {d : Desk}

/-- What a step adds to the journal: nothing, a call that has its verdict at once or by an answer, or
the end of a cycle. -/
theorem journal_step (d : Desk) (a : Action) :
    (d.step a).journal = d.journal ∨ ∃ ending, (d.step a).journal = ending :: d.journal ∧
      ((∃ credential verdict, (d.cache.inquire credential d.now).1 = .done verdict ∧
          ending = .call ⟨credential, d.now, none, verdict, d.now⟩) ∨
        (∃ (w : Waiting) (answer : Except DirectoryError (Option Record)),
          ending = .call ⟨w.credential, w.asked, some answer,
            (d.cache.settle d.ttlSeconds w.fingerprint w.stale d.now answer).1, d.now⟩) ∨
        ∃ answer, ending =
          .cycle ⟨answer, (d.refresher.complete d.cache d.now answer).1, d.now⟩) := by
  cases a with
  | advance span => exact .inl rfl
  | beginCycle => exact .inl rfl
  | ask credential =>
    rw [step, ask]
    split
    next verdict hinquire => exact .inr ⟨_, rfl, .inl ⟨credential, verdict, hinquire, rfl⟩⟩
    next => exact .inl rfl
  | reply place answer =>
    rw [step, reply]
    split
    next => exact .inl rfl
    next w hw => exact .inr ⟨_, rfl, .inr (.inl ⟨w, answer, rfl⟩)⟩
  | endCycle answer => exact .inr ⟨_, rfl, .inr (.inr ⟨answer, rfl⟩)⟩

private theorem answered_step (h : ∀ ending ∈ d.journal, ending.Answered) (a : Action) :
    ∀ ending ∈ (d.step a).journal, ending.Answered := by
  rcases d.journal_step a with hsame | ⟨ending, hjournal, hending⟩
  · rwa [hsame]
  · rw [hjournal]
    refine List.forall_mem_cons.mpr ⟨?_, h⟩
    rcases hending with ⟨credential, verdict, -, rfl⟩ | ⟨w, answer, rfl⟩ | ⟨answer, rfl⟩
    · trivial
    · trivial
    · exact answer_of_refreshed

private theorem answered_run (ttlSeconds : Nat) (fetchTimeout : Duration) (actions : List Action) :
    ∀ ending ∈ (run ttlSeconds fetchTimeout actions).journal, ending.Answered := by
  induction actions using List.reverseRecOn with
  | nil => exact fun ending hmem => absurd hmem List.not_mem_nil
  | append_singleton actions a ih =>
    rw [run_snoc]
    exact answered_step ih a

private theorem own_take_authenticate (hwaiting : d.waiting = []) (credential : String)
    (delay : Duration) (answer : Except DirectoryError (Option Record)) :
    ∃ c : Call, (d.take (.authenticate credential delay answer)).journal = .call c :: d.journal ∧
      c.credential = credential ∧ c.asked = d.now ∧
      c.own = if d.cache.asks credential d.now then some answer else none := by
  cases hasks : d.cache.asks credential d.now with
  | true =>
    obtain ⟨stale, hinquire⟩ := inquire_of_asks hasks
    rw [take_authenticate_of_ask hwaiting hinquire]
    exact ⟨_, rfl, rfl, rfl, rfl⟩
  | false =>
    obtain ⟨verdict, hinquire⟩ := inquire_of_not_asks hasks
    rw [take_authenticate_of_done hwaiting hinquire]
    exact ⟨_, rfl, rfl, rfl, rfl⟩

private theorem Tracked.sparing (h : Tracked ttlSeconds d) (hwaiting : d.waiting = [])
    (credential : String) (delay : Duration) (answer : Except DirectoryError (Option Record)) :
    ∃ c, (d.take (.authenticate credential delay answer)).journal = .call c :: d.journal ∧
      c.Sparing ttlSeconds d.journal := by
  cases hasks : d.cache.asks credential d.now with
  | false =>
    obtain ⟨verdict, hinquire⟩ := inquire_of_not_asks hasks
    rw [take_authenticate_of_done hwaiting hinquire]
    refine ⟨_, rfl, ?_, ?_⟩
    · intro hown
      cases hown
    · intro r hown
      cases hown
  | true =>
    obtain ⟨stale, hinquire⟩ := inquire_of_asks hasks
    rw [take_authenticate_of_ask hwaiting hinquire]
    refine ⟨_, rfl, ?_, ?_⟩
    · intro _ e he
      have hentry : d.cache.entries[Fingerprint.ofCredential (Text.trim credential)]? = some e :=
        (h.overlay _).trans he
      rcases d.cache.inquire_cases credential d.now with ⟨-, hdone⟩ | ⟨_, rfl, hfound⟩
      · exact nomatch hinquire.symm.trans hdone
      · rcases hfound with ⟨e', -, -, hdone⟩ | ⟨e', he', hexpired, -⟩ | ⟨hnone, -⟩
        · exact nomatch hinquire.symm.trans hdone
        · cases hentry.symm.trans he'
          exact hexpired
        · exact nomatch hentry.symm.trans hnone
    · intro r hown
      cases hown
      rw [h.ttl]
      rcases settle_of_found d.cache ttlSeconds (.ofCredential (Text.trim credential)) stale
        (d.now + delay) r with ⟨hrange, hsettle⟩ | ⟨hrange, hsettle⟩
      · rw [hsettle]
        exact .inl ⟨hrange, rfl⟩
      · rw [hsettle]
        exact .inr ⟨hrange, rfl⟩

/-- How often a desk asks its directory. -/
structure Shielded (ttlSeconds : Nat) (d : Desk) : Prop where
  asks : ∀ credential delay answer, ∃ c : Call,
    (d.take (.authenticate credential delay answer)).journal = .call c :: d.journal ∧
      c.credential = credential ∧ c.asked = d.now ∧
      c.own = if d.cache.asks credential d.now then some answer else none
  /-- The claim of `Spaced`, but for an entry whose end the clock cannot represent. -/
  spaced : ∀ (newer between older : List Ending) (later earlier : Call) (r : Record),
    d.journal = newer ++ .call later :: (between ++ .call earlier :: older) →
      later.fingerprint = earlier.fingerprint → later.own.isSome →
        earlier.own = some (.ok (some r)) →
          (∀ ending ∈ between, ending.Lists earlier.fingerprint) →
            (earlier.time + Duration.ofSeconds ttlSeconds).InRange ∧
                earlier.time + Duration.ofSeconds ttlSeconds ≤ later.asked ∨
              ¬(earlier.time + Duration.ofSeconds ttlSeconds).InRange ∧
                earlier.verdict = .deadlineOverflow

/-- Only a call without a good entry asks, and a key that has been found is not asked for again
during the time of its entry. -/
theorem shielded_attend (ttlSeconds : Nat) (fetchTimeout : Duration) (turns : List Turn) :
    Shielded ttlSeconds (attend ttlSeconds fetchTimeout turns) where
  asks := own_take_authenticate (waiting_attend ttlSeconds fetchTimeout turns)
  spaced := by
    intro newer between older later earlier r hjournal hkey hasked hfound hlists
    have hcalls : ∀ c rest, (.call c :: rest) <:+ (attend ttlSeconds fetchTimeout turns).journal →
        c.Sparing ttlSeconds rest :=
      forall_call_attend (fun _ => Tracked.sparing) fetchTimeout turns
    have horder := (tracked_run ttlSeconds fetchTimeout (turns.flatMap Turn.actions)).order
    have hanswered : ∀ ending ∈ between, ending.Answered := by
      intro ending hmem
      refine answered_run ttlSeconds fetchTimeout (turns.flatMap Turn.actions) ending ?_
      rw [← attend, hjournal]
      exact List.mem_append_right _ (List.mem_cons_of_mem _ (List.mem_append_left _ hmem))
    rw [← attend, hjournal] at horder
    rw [hjournal] at hcalls
    have hlater := hcalls later (between ++ .call earlier :: older) (List.suffix_append _ _)
    have hearlier := hcalls earlier older (List.suffix_append_of_suffix
      (List.suffix_cons_iff.mpr (.inr (List.suffix_append _ _))))
    rcases hearlier.found r hfound with ⟨hrange, hverdict⟩ | ⟨hrange, hverdict⟩
    · refine .inl ⟨hrange, ?_⟩
      have hafter : ∀ ending ∈ between, earlier.time ≤ ending.time := by
        intro ending hmem
        have hrest := (List.pairwise_append.mp horder).2.1
        have hbetween := (List.pairwise_append.mp (List.pairwise_cons.mp hrest).2).2.2
        exact hbetween ending hmem _ List.mem_cons_self
      have hgiven : latest? earlier.fingerprint (.call earlier :: older) =
          some (r, earlier.time) := by
        have hgives : (Ending.call earlier).given? earlier.fingerprint = some r :=
          given?_of_granted hfound hverdict
        simp only [latest?, hgives, Ending.time]
      obtain ⟨r', t', hlatest, ht'⟩ := latest?_append_of_lists hanswered hlists hafter hgiven
      have hheld : held? ttlSeconds later.fingerprint (between ++ .call earlier :: older) =
          some (.given ttlSeconds earlier.fingerprint r' t') := by
        rw [hkey, held?, hlatest, Option.map_some]
      exact Nat.le_trans (Nat.add_le_add_right ht' _) (hlater.lapsed hasked _ hheld)
    · exact .inr ⟨hrange, hverdict⟩

/-- A key is found, but the clock cannot represent the end of its entry: nothing is kept. -/
theorem take_authenticate_of_overflow {credential : String} (hwaiting : d.waiting = [])
    (hblank : ¬(Text.trim credential).isEmpty)
    (hnone : d.cache.entries[Fingerprint.ofCredential (Text.trim credential)]? = none)
    (delay : Duration) (r : Record)
    (hrange : ¬(d.now + delay + Duration.ofSeconds d.ttlSeconds).InRange) :
    d.take (.authenticate credential delay (.ok (some r))) =
      { d with
        now := d.now + delay
        journal := .call ⟨credential, d.now, some (.ok (some r)), .deadlineOverflow,
          d.now + delay⟩ :: d.journal } := by
  have hasks : (d.cache.inquire credential d.now).1 =
      .ask (.ofCredential (Text.trim credential)) none := by
    rw [inquire_of_lapsed hblank, hnone]
    intro e he
    cases hnone.symm.trans he
  rw [take_authenticate_of_ask hwaiting hasks]
  rcases settle_of_found d.cache d.ttlSeconds (.ofCredential (Text.trim credential)) none
    (d.now + delay) r with ⟨hkept, -⟩ | ⟨-, hsettle⟩
  · exact absurd hkept hrange
  · rw [hsettle]

/-- A key is found twice, the second time at once, because the first answer could not be kept. -/
theorem asks_again_of_overflow (ttlSeconds : Nat) (fetchTimeout : Duration) (credential : String)
    (r : Record) (hblank : ¬(Text.trim credential).isEmpty)
    (hrange : ¬(Instant.start + Duration.ofSeconds ttlSeconds).InRange) :
    ∃ later earlier : Call,
      (attend ttlSeconds fetchTimeout [.authenticate credential .zero (.ok (some r)),
        .authenticate credential .zero (.ok (some r))]).journal =
          [.call later, .call earlier] ∧
        later.fingerprint = earlier.fingerprint ∧ later.own.isSome ∧
        earlier.own = some (.ok (some r)) ∧
        later.asked < earlier.time + Duration.ofSeconds ttlSeconds := by
  have hpositive : Instant.start < Instant.start + Duration.ofSeconds ttlSeconds := by
    refine Nat.lt_of_not_le fun hle => hrange ?_
    have hzero : (Instant.start + Duration.ofSeconds ttlSeconds).nanos = 0 := Nat.le_zero.mp hle
    rw [Instant.InRange, hzero, Nat.zero_div]
    exact Nat.zero_le _
  have hagain : ∀ journal : List Ending,
      ({ open_ ttlSeconds fetchTimeout with journal } : Desk).take
          (.authenticate credential .zero (.ok (some r))) =
        { open_ ttlSeconds fetchTimeout with
          journal := .call ⟨credential, .start, some (.ok (some r)), .deadlineOverflow, .start⟩ ::
            journal } := by
    intro journal
    exact take_authenticate_of_overflow rfl hblank Std.ExtTreeMap.getElem?_empty .zero r hrange
  have hopen : attend ttlSeconds fetchTimeout [] =
    { open_ ttlSeconds fetchTimeout with journal := [] } := rfl
  rw [← List.nil_append [_, _], List.append_cons, attend_snoc, attend_snoc, hopen, hagain, hagain]
  exact ⟨_, _, rfl, rfl, rfl, rfl, hpositive⟩

/-- Not every life of an entry keeps the questions apart: with the longest one, each call asks. -/
theorem not_spaced_of_longest_life :
    ¬∀ ttlSeconds fetchTimeout turns, ttlSeconds < UInt64.size →
      Spaced ttlSeconds (attend ttlSeconds fetchTimeout turns).journal := by
  intro h
  obtain ⟨later, earlier, hjournal, hkey, hasked, hfound, hsoon⟩ :=
    asks_again_of_overflow (UInt64.size - 1) (.ofSeconds 5) "k" ⟨"org", "key_k", ⟨10, 100, 5⟩⟩
      (by decide) (by decide)
  have hspaced := h _ _ _ (by decide) [] [] [] later earlier _ hjournal hkey hasked hfound
    fun ending hmem => absurd hmem List.not_mem_nil
  exact absurd hsoon (Nat.not_lt.mpr hspaced)

end Desk

end TenantGateway.Tenant
