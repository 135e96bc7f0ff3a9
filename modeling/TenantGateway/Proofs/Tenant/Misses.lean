import TenantGateway.Proofs.Tenant.Sessions

/-! What the cache of a session does not know its directory decides, whatever the refresh loop does
between the question and the answer. -/
namespace TenantGateway.Simulation.TenantSession
open Tenant Text

/-- Questions to the directory have the same answers as before, and entries live as long. -/
structure Keeps (s t : TenantSession) : Prop where
  source : t.directory.source = s.directory.source
  broken : t.directory.broken = s.directory.broken
  ttl : t.ttlSeconds = s.ttlSeconds

variable {s t u : TenantSession}

private theorem Keeps.refl (s : TenantSession) : s.Keeps s := ⟨rfl, rfl, rfl⟩

private theorem Keeps.trans (h : s.Keeps t) (h' : t.Keeps u) : s.Keeps u :=
  ⟨h'.source.trans h.source, h'.broken.trans h.broken, h'.ttl.trans h.ttl⟩

private theorem Keeps.fetchOne_eq (h : s.Keeps t) (f : Fingerprint) :
    (t.directory.fetchOne f).1 = (s.directory.fetchOne f).1 := by
  rw [SlowDirectory.fetchOne, SlowDirectory.fetchOne, h.source, h.broken]
  split <;> rfl

private theorem keeps_answer (s : TenantSession) (r : Refresher) (f : Fetch) :
    s.Keeps (s.answer r f).2 := by
  unfold answer
  split
  · exact .refl s
  · dsimp only
    unfold SlowDirectory.fetchAll
    split
    · exact ⟨rfl, rfl, rfl⟩
    · exact ⟨rfl, rfl, rfl⟩

private theorem keeps_step? (h : s.step? = some t) : s.Keeps t := by
  obtain ⟨l, -, ⟨-, rfl⟩ | ⟨-, -, rfl⟩ | ⟨f, answer, directory, -, -, -, hanswer, rfl⟩⟩ :=
    step?_cases h
  · exact ⟨rfl, rfl, rfl⟩
  · exact ⟨rfl, rfl, rfl⟩
  · have hkeeps := s.keeps_answer l.refresher f
    rw [hanswer] at hkeeps
    exact ⟨hkeeps.source, hkeeps.broken, rfl⟩

private theorem keeps_runWhile (soon : Instant → Bool) (fuel : Nat) (s : TenantSession) :
    s.Keeps (runWhile soon fuel s) := by
  induction fuel generalizing s with
  | zero => exact .refl s
  | succ fuel ih =>
    rw [runWhile]
    cases hstep : s.step? with
    | some t => exact (keeps_step? hstep).trans (ih t)
    | none =>
      cases s.due? with
      | none => exact .refl s
      | some due =>
        dsimp only
        split
        · exact (⟨rfl, rfl, rfl⟩ : s.Keeps { s with now := due }).trans (ih _)
        · exact .refl s

private theorem keeps_runThrough (s : TenantSession) (target : Instant) :
    s.Keeps (s.runThrough target) :=
  (keeps_runWhile _ _ s).trans ⟨rfl, rfl, rfl⟩

/-- An authentication breaks off only where the clock cannot represent the end of the new entry. -/
theorem not_inRange_of_authenticate {credential : Option String}
    (h : (s.authenticate credential).1 = .deadlineOverflow) :
    ¬((s.authenticate credential).2.now + Duration.ofSeconds s.ttlSeconds).InRange := by
  cases credential with
  | none => cases h
  | some credential =>
    have hkeeps := s.keeps_runThrough s.now
    rw [authenticate] at h ⊢
    generalize s.runThrough s.now = u at h hkeeps ⊢
    have hcases := u.cache.inquire_cases credential u.now
    dsimp only at h ⊢
    generalize u.cache.inquire credential u.now = inquiry at h hcases ⊢
    obtain ⟨next, ms⟩ := inquiry
    cases next with
    | done verdict =>
      cases h
      rcases hcases with ⟨-, hnext⟩ | ⟨_, -, ⟨e, -, -, hnext⟩ | ⟨e, -, -, hnext⟩ | ⟨-, hnext⟩⟩ <;>
        cases hnext
    | ask f stale =>
      have hasked : s.Keeps (u.report ms) := hkeeps.trans ⟨rfl, rfl, rfl⟩
      have hanswered := hasked.trans
        ((u.report ms).keeps_runThrough ((u.report ms).now + (u.report ms).directory.delay))
      rw [← hanswered.ttl]
      exact Cache.not_inRange_of_settle h

/-- The cache does not know the credential when the session looks it up. -/
def Misses (s : TenantSession) (credential : String) : Prop :=
  (s.runThrough s.now).cache.lookup (.ofCredential (trim credential)) s.now = .miss

private theorem authenticate_of_misses {credential : String} (hmiss : s.Misses credential)
    (hblank : trim credential ≠ "") : ∃ cache : Cache,
      (s.authenticate (some credential)).1 =
        (cache.settle s.ttlSeconds (.ofCredential (trim credential)) none
          (s.authenticate (some credential)).2.now
          (s.directory.fetchOne (.ofCredential (trim credential))).1).1 := by
  have hinquire : (s.runThrough s.now).cache.inquire credential s.now =
      (.ask (.ofCredential (trim credential)) none, [.cacheLookup Lookup.miss.name]) := by
    have hne : (trim credential).isEmpty = false := by
      rwa [Bool.eq_false_iff, ne_eq, String.isEmpty_iff]
    rw [Misses] at hmiss
    simp only [Cache.inquire, hne, hmiss, Bool.false_eq_true, if_false]
  let asked := (s.runThrough s.now).report [.cacheLookup Lookup.miss.name]
  let answered := asked.runThrough (asked.now + asked.directory.delay)
  have hasked : s.Keeps asked := (s.keeps_runThrough s.now).trans ⟨rfl, rfl, rfl⟩
  have hkeeps : s.Keeps answered := hasked.trans (asked.keeps_runThrough _)
  refine ⟨answered.cache, ?_⟩
  rw [← hkeeps.fetchOne_eq, ← hkeeps.ttl, authenticate]
  simp only [show (s.runThrough s.now).now = s.now from rfl, hinquire]
  rfl

/-- The credential is granted a record, if only the clock can represent the end of the entry. -/
structure Resolves (s : TenantSession) (credential : String) (r : Record) : Prop where
  granted : ((s.authenticate (some credential)).2.now + Duration.ofSeconds s.ttlSeconds).InRange →
    (s.authenticate (some credential)).1 = .granted (.given s.ttlSeconds
      (.ofCredential (trim credential)) r (s.authenticate (some credential)).2.now)
  overflow : ¬ ((s.authenticate (some credential)).2.now + Duration.ofSeconds s.ttlSeconds).InRange →
    (s.authenticate (some credential)).1 = .deadlineOverflow

/-- A key that the cache does not know and the directory does is granted its record. -/
theorem resolves_of_misses {credential : String} {r : Record} (hmiss : s.Misses credential)
    (hblank : trim credential ≠ "")
    (hfetch : (s.directory.fetchOne (.ofCredential (trim credential))).1 = .ok (some r)) :
    s.Resolves credential r := by
  obtain ⟨cache, hverdict⟩ := authenticate_of_misses hmiss hblank
  rw [hfetch] at hverdict
  rcases settle_of_found cache s.ttlSeconds (.ofCredential (trim credential)) none
    (s.authenticate (some credential)).2.now r with ⟨hrange, hsettle⟩ | ⟨hrange, hsettle⟩
  · rw [hsettle] at hverdict
    exact ⟨fun _ => hverdict, fun hnot => absurd hrange hnot⟩
  · rw [hsettle] at hverdict
    exact ⟨fun h => absurd h hrange, fun _ => hverdict⟩

/-- A key that neither of them knows is denied. -/
theorem denied_of_misses {credential : String} (hmiss : s.Misses credential)
    (hblank : trim credential ≠ "")
    (hfetch : (s.directory.fetchOne (.ofCredential (trim credential))).1 = .ok none) :
    (s.authenticate (some credential)).1 = .denied .invalid := by
  obtain ⟨cache, hverdict⟩ := authenticate_of_misses hmiss hblank
  rwa [hfetch] at hverdict

end TenantGateway.Simulation.TenantSession
