import TenantGateway.Proofs.Tenant.Soundness

/-! What becomes of a key that the directory has disowned, when one thing comes after another. The
answer that a key is unknown denies the call and leaves the cache as it is, an expired entry for the
key included; a call during a later outage is granted that entry. There is no other way back: without
a new record a disowned key stays rejected while the directory answers, and once a refresh has
cleared the cache it is rejected in an outage, too. -/
namespace TenantGateway.Tenant

/-- A piece of a run in which no call and no cycle meets another. -/
inductive Turn where
  | advance (span : Duration)
  /-- The directory, if it is asked, gives its answer after a delay. -/
  | authenticate (credential : String) (delay : Duration)
      (answer : Except DirectoryError (Option Record))
  | refresh (delay : Duration) (answer : Except RefreshError Snapshot)

def Turn.actions : Turn → List Action
  | .advance span => [.advance span]
  | .authenticate credential delay answer => [.ask credential, .advance delay, .reply 0 answer]
  | .refresh delay answer => [.beginCycle, .advance delay, .endCycle answer]

/-- The directory has returned a record for a fingerprint, to a call that has asked for it or to a
cycle that has succeeded. -/
def Ending.Brings (f : Fingerprint) : Ending → Prop
  | .call c => c.fingerprint = f ∧ ∃ r, c.own = some (.ok (some r))
  | .cycle c => c.outcome = .refreshed ∧ ∃ s, c.answer = .ok s ∧ f ∈ s

/-- Once a call has been told that its key is unknown, no later call with the key is granted
anything, unless the directory has returned a record in between or to the later call itself. -/
def StaysRejected (journal : List Ending) : Prop :=
  ∀ (newer between older : List Ending) (later denied : Call) (e : Entry),
    journal = newer ++ .call later :: (between ++ .call denied :: older) →
      denied.verdict = .denied .invalid → later.fingerprint = denied.fingerprint →
        later.verdict = .granted e →
          ∃ ending ∈ .call later :: between, ending.Brings denied.fingerprint

section Journal

variable {f : Fingerprint} {journal between : List Ending}

private theorem given?_eq_none {ending : Ending} (h : ¬ending.Brings f) :
    ending.given? f = none := by
  rw [Option.eq_none_iff_forall_ne_some]
  intro r hgiven
  refine h ?_
  match ending with
  | .call ⟨credential, _, some (.ok (some r')), .granted _, _⟩ =>
    simp only [Ending.given?, Option.ite_none_right_eq_some] at hgiven
    exact ⟨hgiven.1, r', rfl⟩
  | .cycle ⟨.ok s, .refreshed, _⟩ =>
    have hs : s[f]? = some r := hgiven
    exact ⟨rfl, s, rfl, Std.ExtTreeMap.mem_iff_isSome_getElem?.mpr (by rw [hs]; rfl)⟩

private theorem latest?_append_eq_some {p : Record × Instant}
    (hbetween : ∀ ending ∈ between, ¬ending.Brings f)
    (h : latest? f (between ++ journal) = some p) :
    latest? f journal = some p ∧ ∀ ending ∈ between, ending.isRefresh = false := by
  induction between with
  | nil => exact ⟨h, by simp⟩
  | cons ending between ih =>
    obtain ⟨hending, hbetween⟩ := List.forall_mem_cons.mp hbetween
    rw [List.cons_append, latest?, given?_eq_none hending] at h
    cases hrefresh : ending.isRefresh with
    | true =>
      simp only [hrefresh, if_true] at h
      cases h
    | false =>
      simp only [hrefresh, Bool.false_eq_true, if_false] at h
      obtain ⟨hlatest, hrest⟩ := ih hbetween h
      exact ⟨hlatest, List.forall_mem_cons.mpr ⟨hrefresh, hrest⟩⟩

end Journal

section Answer

variable {c : Cache} {ttlSeconds : Nat} {f : Fingerprint} {stale : Option Entry} {now : Instant}
  {answer : Except DirectoryError (Option Record)}

private theorem answer_of_invalid
    (h : (c.settle ttlSeconds f stale now answer).1 = .denied .invalid) : answer = .ok none := by
  rcases c.settle_cases ttlSeconds f stale now answer with ⟨r, -, hsettle⟩ | ⟨r, -, -, hsettle⟩ |
    ⟨hanswer, -⟩ | ⟨error, e, -, -, hsettle⟩ | ⟨error, -, -, hsettle⟩
  case inr.inr.inl => exact hanswer
  all_goals
    rw [hsettle] at h
    cases h

private theorem answer_of_granted {e : Entry}
    (h : (c.settle ttlSeconds f stale now answer).1 = .granted e) :
    (∃ r, answer = .ok (some r)) ∨ ∃ error, answer = .error error ∧ stale = some e := by
  rcases c.settle_cases ttlSeconds f stale now answer with ⟨r, hanswer, -⟩ |
    ⟨r, hanswer, -, -⟩ | ⟨-, hsettle⟩ | ⟨error, old, hanswer, hold, hsettle⟩ |
    ⟨error, -, -, hsettle⟩
  · exact .inl ⟨r, hanswer⟩
  · exact .inl ⟨r, hanswer⟩
  · rw [hsettle] at h
    cases h
  · rw [hsettle] at h
    cases h
    exact .inr ⟨error, hanswer, hold⟩
  · rw [hsettle] at h
    cases h

end Answer

/-- The entry that the cache holds for a fingerprint, read off the journal. -/
def held? (ttlSeconds : Nat) (f : Fingerprint) (journal : List Ending) : Option Entry :=
  (latest? f journal).map fun (r, t) => .given ttlSeconds f r t

/-- What a call that meets no other has to do with the entry it finds: it is told that its key is
unknown by the directory, once the entry is no longer good, and it is granted a new record, an entry
that is good, or an expired one because the directory has failed. -/
structure Call.Undisturbed (ttlSeconds : Nat) (c : Call) (earlier : List Ending) : Prop where
  past : ∀ ending ∈ earlier, ending.time ≤ c.asked
  span : c.asked ≤ c.time
  invalid : c.verdict = .denied .invalid → c.own = some (.ok none) ∧
    ∀ e, held? ttlSeconds c.fingerprint earlier = some e → e.expiresAt ≤ c.asked
  granted : ∀ e, c.verdict = .granted e →
    (∃ r, c.own = some (.ok (some r))) ∨
      held? ttlSeconds c.fingerprint earlier = some e ∧
        (c.asked < e.expiresAt ∨
          e.expiresAt ≤ c.asked ∧ ∃ error, c.own = some (.error error))

namespace Desk

def take (d : Desk) (t : Turn) : Desk := t.actions.foldl step d

/-- The desk after some turns. -/
def attend (ttlSeconds : Nat) (fetchTimeout : Duration) (turns : List Turn) : Desk :=
  run ttlSeconds fetchTimeout (turns.flatMap Turn.actions)

private theorem attend_append (ttlSeconds : Nat) (fetchTimeout : Duration)
    (turns more : List Turn) :
    attend ttlSeconds fetchTimeout (turns ++ more) =
      more.foldl take (attend ttlSeconds fetchTimeout turns) := by
  rw [attend, run, List.flatMap_append, List.foldl_append, List.foldl_flatMap]
  rfl

theorem attend_snoc (ttlSeconds : Nat) (fetchTimeout : Duration) (turns : List Turn) (t : Turn) :
    attend ttlSeconds fetchTimeout (turns ++ [t]) =
      (attend ttlSeconds fetchTimeout turns).take t :=
  attend_append ttlSeconds fetchTimeout turns [t]

variable {ttlSeconds : Nat} {d : Desk} {credential : String} {delay : Duration}
  {answer : Except DirectoryError (Option Record)}

/-- A look at the cache has decided the call. -/
theorem take_authenticate_of_done {verdict : Verdict} (hwaiting : d.waiting = [])
    (h : (d.cache.inquire credential d.now).1 = .done verdict) :
    d.take (.authenticate credential delay answer) =
      { d with
        now := d.now + delay
        journal := .call ⟨credential, d.now, none, verdict, d.now⟩ :: d.journal } := by
  simp only [take, Turn.actions, List.foldl_cons, List.foldl_nil, step, ask, h, reply, hwaiting,
    List.getElem?_nil]

/-- The directory has decided the call. -/
theorem take_authenticate_of_ask {f : Fingerprint} {stale : Option Entry}
    (hwaiting : d.waiting = []) (h : (d.cache.inquire credential d.now).1 = .ask f stale) :
    d.take (.authenticate credential delay answer) =
      { d with
        now := d.now + delay
        cache := (d.cache.settle d.ttlSeconds f stale (d.now + delay) answer).2
        journal := .call ⟨credential, d.now, some answer,
          (d.cache.settle d.ttlSeconds f stale (d.now + delay) answer).1, d.now + delay⟩ ::
          d.journal } := by
  simp only [take, Turn.actions, List.foldl_cons, List.foldl_nil, step, ask, h, reply, hwaiting,
    List.nil_append, List.getElem?_cons_zero, List.eraseIdx_cons_zero]

/-- Between two turns nothing waits. -/
theorem waiting_attend (ttlSeconds : Nat) (fetchTimeout : Duration) (turns : List Turn) :
    (attend ttlSeconds fetchTimeout turns).waiting = [] := by
  induction turns using List.reverseRecOn with
  | nil => rfl
  | append_singleton turns t ih =>
    rw [attend_snoc]
    generalize attend ttlSeconds fetchTimeout turns = d at ih
    cases t with
    | advance span => exact ih
    | authenticate credential delay answer =>
      cases hinquire : (d.cache.inquire credential d.now).1 with
      | done verdict =>
        rw [take_authenticate_of_done ih hinquire]
        exact ih
      | ask f stale =>
        rw [take_authenticate_of_ask ih hinquire]
        exact ih
    | refresh delay answer => exact ih

/-- What every call on its own has to do with the endings before it holds of all calls. -/
theorem forall_call_attend {P : Call → List Ending → Prop}
    (hcall : ∀ d : Desk, Tracked ttlSeconds d → d.waiting = [] → ∀ credential delay answer,
      ∃ c, (d.take (.authenticate credential delay answer)).journal = .call c :: d.journal ∧
        P c d.journal)
    (fetchTimeout : Duration) (turns : List Turn) (c : Call) (earlier : List Ending)
    (hsuffix : (.call c :: earlier) <:+ (attend ttlSeconds fetchTimeout turns).journal) :
    P c earlier := by
  induction turns using List.reverseRecOn with
  | nil => exact absurd (List.suffix_nil.mp hsuffix) (List.cons_ne_nil _ _)
  | append_singleton turns t ih =>
    have htracked : Tracked ttlSeconds (attend ttlSeconds fetchTimeout turns) :=
      tracked_run ttlSeconds fetchTimeout _
    have hwaiting := waiting_attend ttlSeconds fetchTimeout turns
    rw [attend_snoc] at hsuffix
    generalize attend ttlSeconds fetchTimeout turns = d at ih htracked hwaiting hsuffix
    cases t with
    | advance span => exact ih hsuffix
    | authenticate credential delay answer =>
      obtain ⟨c', hjournal, hc⟩ := hcall d htracked hwaiting credential delay answer
      rw [hjournal] at hsuffix
      rcases List.suffix_cons_iff.mp hsuffix with heq | hsuffix
      · cases heq
        exact hc
      · exact ih hsuffix
    | refresh delay answer =>
      rcases List.suffix_cons_iff.mp hsuffix with heq | hsuffix
      · cases heq
      · exact ih hsuffix

private theorem Tracked.take_authenticate (h : Tracked ttlSeconds d) (hwaiting : d.waiting = [])
    (credential : String) (delay : Duration) (answer : Except DirectoryError (Option Record)) :
    ∃ c, (d.take (.authenticate credential delay answer)).journal = .call c :: d.journal ∧
      c.Undisturbed ttlSeconds d.journal := by
  have hheld : ∀ f : Fingerprint, d.cache.entries[f]? = held? ttlSeconds f d.journal := h.overlay
  have hspan : d.now ≤ d.now + delay := Nat.le_add_right _ _
  rcases d.cache.inquire_cases credential d.now with ⟨-, hinquire⟩ | ⟨f, hf, hfound⟩
  · rw [take_authenticate_of_done hwaiting hinquire]
    refine ⟨_, rfl, h.past, Nat.le_refl _, ?_, ?_⟩
    · intro hverdict
      cases hverdict
    · intro e hverdict
      cases hverdict
  · have hasked : ∀ stale, (d.cache.inquire credential d.now).1 = .ask f stale →
        d.cache.entries[f]? = stale → (∀ e, stale = some e → e.expiresAt ≤ d.now) →
        ∃ c, (d.take (.authenticate credential delay answer)).journal = .call c :: d.journal ∧
          c.Undisturbed ttlSeconds d.journal := by
      intro stale hinquire hstale hexpired
      rw [hheld, hf] at hstale
      rw [take_authenticate_of_ask hwaiting hinquire]
      refine ⟨_, rfl, h.past, hspan, ?_, ?_⟩
      · intro hverdict
        rw [answer_of_invalid hverdict]
        exact ⟨rfl, fun e he => hexpired e (hstale.symm.trans he)⟩
      · intro e hverdict
        rcases answer_of_granted hverdict with ⟨r, rfl⟩ | ⟨error, rfl, hold⟩
        · exact .inl ⟨r, rfl⟩
        · exact .inr ⟨hstale.trans hold, .inr ⟨hexpired e hold, error, rfl⟩⟩
    rcases hfound with ⟨e, he, hgood, hinquire⟩ | ⟨e, he, hexpired, hinquire⟩ | ⟨he, hinquire⟩
    · rw [take_authenticate_of_done hwaiting hinquire]
      refine ⟨_, rfl, h.past, Nat.le_refl _, ?_, ?_⟩
      · intro hverdict
        cases hverdict
      · intro e' hverdict
        cases hverdict
        rw [hheld, hf] at he
        exact .inr ⟨he, .inl hgood⟩
    · refine hasked _ hinquire he ?_
      intro e' he'
      cases he'
      exact hexpired
    · refine hasked _ hinquire he ?_
      intro e' he'
      cases he'

private theorem undisturbed_attend (ttlSeconds : Nat) (fetchTimeout : Duration)
    (turns : List Turn) (c : Call) (earlier : List Ending) :
    (.call c :: earlier) <:+ (attend ttlSeconds fetchTimeout turns).journal →
      c.Undisturbed ttlSeconds earlier :=
  forall_call_attend (fun _ => Tracked.take_authenticate) fetchTimeout turns c earlier

section Leftover

/-- Without a good entry the directory is asked. -/
theorem inquire_of_lapsed {c : Cache} {now : Instant}
    (hblank : ¬(Text.trim credential).isEmpty)
    (hlapsed : ∀ e, c.entries[Fingerprint.ofCredential (Text.trim credential)]? = some e →
      e.expiresAt ≤ now) :
    (c.inquire credential now).1 = .ask (.ofCredential (Text.trim credential))
      c.entries[Fingerprint.ofCredential (Text.trim credential)]? := by
  rcases c.inquire_cases credential now with ⟨h, -⟩ | ⟨_, rfl, hfound⟩
  · exact absurd h hblank
  · rcases hfound with ⟨e, he, hgood, -⟩ | ⟨e, he, -, hinquire⟩ | ⟨he, hinquire⟩
    · exact absurd (hlapsed e he) (Nat.not_le_of_lt hgood)
    · rw [hinquire, he]
    · rw [hinquire, he]

/-- Whatever has happened before: where an expired entry is left over, the directory may disown its
key, and the entry is granted all the same when the directory then fails. -/
theorem readmitted_of_held (fetchTimeout : Duration) (turns : List Turn) {e : Entry}
    (hblank : ¬(Text.trim credential).isEmpty)
    (hheld : held? ttlSeconds (.ofCredential (Text.trim credential))
      (attend ttlSeconds fetchTimeout turns).journal = some e)
    (hexpired : e.expiresAt ≤ (attend ttlSeconds fetchTimeout turns).now)
    (delay delay' : Duration) (error : DirectoryError) :
    ∃ later denied : Call,
      (attend ttlSeconds fetchTimeout (turns ++ [.authenticate credential delay (.ok none),
        .authenticate credential delay' (.error error)])).journal =
          .call later :: .call denied :: (attend ttlSeconds fetchTimeout turns).journal ∧
        denied.verdict = .denied .invalid ∧ later.verdict = .granted e ∧
        later.own = some (.error error) ∧ later.fingerprint = denied.fingerprint := by
  have htracked : Tracked ttlSeconds (attend ttlSeconds fetchTimeout turns) :=
    tracked_run ttlSeconds fetchTimeout _
  have hwaiting := waiting_attend ttlSeconds fetchTimeout turns
  rw [attend_append]
  generalize attend ttlSeconds fetchTimeout turns = d at hheld hexpired htracked hwaiting
  have he : d.cache.entries[Fingerprint.ofCredential (Text.trim credential)]? = some e :=
    (htracked.overlay _).trans hheld
  have hasks : ∀ now, d.now ≤ now → (d.cache.inquire credential now).1 =
      .ask (.ofCredential (Text.trim credential)) (some e) := by
    intro now hnow
    rw [inquire_of_lapsed hblank, he]
    intro e' he'
    cases he.symm.trans he'
    exact Nat.le_trans hexpired hnow
  have hfirst : d.take (.authenticate credential delay (.ok none)) =
      { d with
        now := d.now + delay
        journal := .call ⟨credential, d.now, some (.ok none), .denied .invalid, d.now + delay⟩ ::
          d.journal } :=
    take_authenticate_of_ask hwaiting (hasks _ (Nat.le_refl _))
  -- the denial leaves the cache as it is, so the second call finds what the first has found
  have hsecond : ∀ d' : Desk, d'.cache = d.cache → d'.waiting = [] → d.now ≤ d'.now →
      (d'.take (.authenticate credential delay' (.error error))).journal =
        .call ⟨credential, d'.now, some (.error error), .granted e, d'.now + delay'⟩ ::
          d'.journal := by
    intro d' hcache hwaiting' hnow
    rw [← hcache] at hasks
    rw [take_authenticate_of_ask hwaiting' (hasks _ hnow)]
    rfl
  rw [List.foldl_cons, List.foldl_cons, List.foldl_nil, hfirst, hsecond]
  · exact ⟨_, _, rfl, rfl, rfl, rfl, rfl⟩
  · rfl
  · exact hwaiting
  · exact Nat.le_add_right _ _

private theorem take_advance (d : Desk) (span : Duration) :
    d.take (.advance span) = { d with now := d.now + span } := rfl

private theorem now_take_authenticate (hwaiting : d.waiting = []) :
    (d.take (.authenticate credential delay answer)).now = d.now + delay := by
  cases hinquire : (d.cache.inquire credential d.now).1 with
  | done verdict => rw [take_authenticate_of_done hwaiting hinquire]
  | ask f stale => rw [take_authenticate_of_ask hwaiting hinquire]

private theorem held_of_found (hwaiting : d.waiting = [])
    (hblank : ¬(Text.trim credential).isEmpty)
    (hnone : d.cache.entries[Fingerprint.ofCredential (Text.trim credential)]? = none)
    (r : Record) (hrange : (d.now + delay + Duration.ofSeconds d.ttlSeconds).InRange)
    (span : Duration) :
    ((d.take (.authenticate credential delay (.ok (some r)))).take (.advance span)).now =
        d.now + delay + span ∧
      held? d.ttlSeconds (.ofCredential (Text.trim credential))
        ((d.take (.authenticate credential delay (.ok (some r)))).take (.advance span)).journal =
        some (.given d.ttlSeconds (.ofCredential (Text.trim credential)) r (d.now + delay)) := by
  have hlasting : Entry.lasting? d.ttlSeconds (d.now + delay)
      (.ofCredential (Text.trim credential)) r = some (.given d.ttlSeconds _ r _) :=
    Entry.lasting?_eq_some_iff.mpr ⟨rfl, hrange⟩
  have hasks : (d.cache.inquire credential d.now).1 =
      .ask (.ofCredential (Text.trim credential)) none := by
    rw [inquire_of_lapsed hblank, hnone]
    intro e he
    cases hnone.symm.trans he
  rw [take_advance]
  constructor
  · rw [now_take_authenticate hwaiting]
  · rw [take_authenticate_of_ask hwaiting hasks]
    simp only [Cache.settle, hlasting, held?, latest?, Ending.given?, if_true, Option.map_some,
      Ending.time]

/-- A key is found; it is disowned when its entry has expired; then the directory fails. -/
def disownment (credential : String) (r : Record) (delay span : Duration)
    (error : DirectoryError) : List Turn :=
  [.authenticate credential delay (.ok (some r)), .advance span] ++
    [.authenticate credential delay (.ok none), .authenticate credential delay (.error error)]

/-- Such a key is granted in the end, by nothing but the failure of the directory. -/
theorem readmitted_of_disownment (ttlSeconds : Nat) (fetchTimeout : Duration) (credential : String)
    (r : Record) (delay span : Duration) (error : DirectoryError)
    (hblank : ¬(Text.trim credential).isEmpty)
    (hrange : (Instant.start + delay + Duration.ofSeconds ttlSeconds).InRange)
    (hspan : Duration.ofSeconds ttlSeconds ≤ span) :
    ∃ (e : Entry) (later denied : Call) (older : List Ending),
      (attend ttlSeconds fetchTimeout (disownment credential r delay span error)).journal =
        .call later :: .call denied :: older ∧
        denied.verdict = .denied .invalid ∧ later.verdict = .granted e ∧
        later.own = some (.error error) ∧ later.fingerprint = denied.fingerprint := by
  have hstart : attend ttlSeconds fetchTimeout
      [.authenticate credential delay (.ok (some r)), .advance span] =
      ((open_ ttlSeconds fetchTimeout).take
        (.authenticate credential delay (.ok (some r)))).take (.advance span) :=
    attend_append ttlSeconds fetchTimeout [] _
  obtain ⟨hnow, hheld⟩ := held_of_found (d := open_ ttlSeconds fetchTimeout) rfl hblank
    Std.ExtTreeMap.getElem?_empty r hrange span
  rw [← hstart] at hnow hheld
  have hexpired : Instant.start + delay + Duration.ofSeconds ttlSeconds ≤
      (attend ttlSeconds fetchTimeout
        [.authenticate credential delay (.ok (some r)), .advance span]).now := by
    rw [hnow]
    exact Nat.add_le_add_left hspan _
  obtain ⟨later, denied, hend⟩ := readmitted_of_held fetchTimeout
    [.authenticate credential delay (.ok (some r)), .advance span] hblank hheld hexpired delay delay
    error
  exact ⟨_, later, denied, _, hend⟩

end Leftover

/-- A disowned key comes back by a new record only, or in an outage by the entry that the denied call
has found expired, as long as no refresh clears it away. -/
theorem granted_after_disowned (ttlSeconds : Nat) (fetchTimeout : Duration) (turns : List Turn)
    {newer between older : List Ending} {later denied : Call} {e : Entry}
    (hjournal : (attend ttlSeconds fetchTimeout turns).journal =
      newer ++ .call later :: (between ++ .call denied :: older))
    (hdenied : denied.verdict = .denied .invalid)
    (hkey : later.fingerprint = denied.fingerprint) (hgranted : later.verdict = .granted e) :
    (∃ ending ∈ .call later :: between, ending.Brings denied.fingerprint) ∨
      (∃ error, later.own = some (.error error)) ∧
        held? ttlSeconds denied.fingerprint older = some e ∧ e.expiresAt ≤ denied.asked ∧
          ∀ ending ∈ between, ending.isRefresh = false := by
  have hcalls := undisturbed_attend ttlSeconds fetchTimeout turns
  rw [hjournal] at hcalls
  have hlater := hcalls later (between ++ .call denied :: older) (List.suffix_append _ _)
  have hfirst := hcalls denied older (List.suffix_append_of_suffix
    (List.suffix_cons_iff.mpr (.inr (List.suffix_append _ _))))
  obtain ⟨hown, hexpired⟩ := hfirst.invalid hdenied
  rcases hlater.granted e hgranted with ⟨r, hnew⟩ | ⟨hheld, hway⟩
  · exact .inl ⟨.call later, List.mem_cons_self, hkey, r, hnew⟩
  · by_cases hbrings : ∃ ending ∈ between, ending.Brings denied.fingerprint
    · obtain ⟨ending, hmem, hending⟩ := hbrings
      exact .inl ⟨ending, List.mem_cons_of_mem _ hmem, hending⟩
    · right
      -- nothing has been brought, so the entry is the one that the denied call has found
      have hnothing : ∀ ending ∈ between ++ [.call denied],
          ¬ending.Brings denied.fingerprint := by
        intro ending hmem hending
        rcases List.mem_append.mp hmem with hmem | hmem
        · exact hbrings ⟨ending, hmem, hending⟩
        · rw [List.mem_singleton.mp hmem] at hending
          obtain ⟨-, r, hr⟩ := hending
          rw [hown] at hr
          cases hr
      rw [hkey, held?, Option.map_eq_some_iff] at hheld
      obtain ⟨p, hlatest, hp⟩ := hheld
      rw [List.append_cons] at hlatest
      obtain ⟨hlatest, hrefresh⟩ := latest?_append_eq_some hnothing hlatest
      have hfound : held? ttlSeconds denied.fingerprint older = some e :=
        Option.map_eq_some_iff.mpr ⟨p, hlatest, hp⟩
      have hlapsed : e.expiresAt ≤ denied.asked := hexpired e hfound
      have hasked : denied.asked ≤ later.asked :=
        Nat.le_trans hfirst.span (hlater.past (.call denied)
          (List.mem_append_right _ List.mem_cons_self))
      rcases hway with hgood | ⟨-, hfailed⟩
      · exact absurd (Nat.le_trans hlapsed hasked) (Nat.not_le_of_lt hgood)
      · exact ⟨hfailed, hfound, hlapsed, fun ending hmem =>
          hrefresh ending (List.mem_append_left _ hmem)⟩

/-- The key that is granted in an outage has brought no record: the entry is the one left over. -/
theorem granted_after_disowned_of_disownment :
    ∃ (e : Entry) (later denied : Call) (older : List Ending),
      (attend 10 (.ofSeconds 5) (disownment "k" ⟨"org", "key_k", ⟨10, 100, 5⟩⟩ .zero
          (.ofSeconds 11) MemoryDirectory.outage)).journal =
        [] ++ .call later :: ([] ++ .call denied :: older) ∧
      denied.verdict = .denied .invalid ∧ later.fingerprint = denied.fingerprint ∧
        later.verdict = .granted e ∧
        ((∃ ending ∈ [Ending.call later], ending.Brings denied.fingerprint) ∨
          (∃ error, later.own = some (.error error)) ∧
            held? 10 denied.fingerprint older = some e ∧ e.expiresAt ≤ denied.asked ∧
              ∀ ending ∈ ([] : List Ending), ending.isRefresh = false) := by
  obtain ⟨e, later, denied, older, hjournal, hdenied, hgranted, -, hkey⟩ :=
    readmitted_of_disownment 10 (.ofSeconds 5) "k" ⟨"org", "key_k", ⟨10, 100, 5⟩⟩ .zero
      (.ofSeconds 11) MemoryDirectory.outage (by decide) (by decide) (by decide)
  have hsplit : (attend 10 (.ofSeconds 5) (disownment "k" ⟨"org", "key_k", ⟨10, 100, 5⟩⟩ .zero
      (.ofSeconds 11) MemoryDirectory.outage)).journal =
      [] ++ .call later :: ([] ++ .call denied :: older) := hjournal
  exact ⟨e, later, denied, older, hsplit, hdenied, hkey, hgranted,
    granted_after_disowned 10 (.ofSeconds 5) _ hsplit hdenied hkey hgranted⟩

/-- Not every run keeps a disowned key rejected: an outage brings one back. -/
theorem not_staysRejected_in_outage :
    ¬∀ ttlSeconds fetchTimeout turns,
      StaysRejected (attend ttlSeconds fetchTimeout turns).journal := by
  intro h
  obtain ⟨e, later, denied, older, hjournal, hdenied, hgranted, hown, hkey⟩ :=
    readmitted_of_disownment 10 (.ofSeconds 5) "k" ⟨"org", "key_k", ⟨10, 100, 5⟩⟩ .zero
      (.ofSeconds 11) MemoryDirectory.outage (by decide) (by decide) (by decide)
  obtain ⟨ending, hmem, hbrings⟩ :=
    h 10 (.ofSeconds 5) _ [] [] older later denied e hjournal hdenied hkey hgranted
  rw [List.mem_singleton.mp hmem] at hbrings
  obtain ⟨-, r, hr⟩ := hbrings
  rw [hown] at hr
  cases hr

end Desk

end TenantGateway.Tenant
