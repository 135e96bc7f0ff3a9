import TenantGateway.Proofs.Pipeline.Passage

/-! What happens in a gateway, with what is reported and noted of it. Whatever a step of a request
reports and notes is that of some occurrences, so that a figure which is right for each occurrence
is right for every step. -/
namespace TenantGateway
open Pipeline (Arrival BackendAnswer Handled Note)
open RateLimit (Admission Decision Limiter LimiterError)
open Tenant (AuthError Cache Entry Fingerprint Lookup Verdict)

/-- A refusal of a request whose caller is known, before the limiter is called. -/
def Refusal.IsMisdirected (e : Refusal) : Prop :=
  e.code = "unknown_service" ∨ e.code = "bad_request"

/-- Something that happens to a request, or the end of a refresh cycle. -/
inductive Occurrence where
  | lookedUp (found : Lookup)
  | failed (e : AuthError)
  | misdirected (e : Refusal) (misdirected : e.IsMisdirected)
  | called
  | decided (r : Except LimiterError Admission) (seconds : Float)
  | undecided
  | returned (h : Handled) (seconds : Float)
  | completed (method : String) (status : UInt16) (service : String) (seconds : Float)
  | refreshed (entries : Nat)
  | unrefreshed

def errorsOf {α : Type} : Except Refusal α → List Measurement
  | .ok _ => []
  | .error e => [.error e.code]

namespace Occurrence

def reports : Occurrence → List Measurement
  | .lookedUp found => [.cacheLookup found.name]
  | .failed e => [.authFailure e.code, .error e.code]
  | .misdirected e _ => [.error e.code]
  | .called | .undecided => []
  | .decided r seconds =>
    [.rateLimitDuration seconds, Limiter.measurement r] ++ errorsOf (Refusal.ofAdmission r)
  | .returned h seconds =>
    Pipeline.forwardingMeasurement h.direction.service h.answer.result seconds ::
      errorsOf h.answer.result
  | .completed method status service seconds => [.request method status service seconds]
  | .refreshed entries => [.cacheRefresh "ok" (some (.ofNat entries))]
  | .unrefreshed => [.cacheRefresh "failed" none]

def notes : Occurrence → List Note
  | .lookedUp _ => [.identifying]
  | .failed e => [.failed e]
  | .misdirected .. | .returned .. | .refreshed _ | .unrefreshed => []
  | .called => [.admitting]
  | .decided r _ => [.decided r]
  | .undecided => [.undecided]
  | .completed .. => [.completed]

/-- It happens to a request, and is no answer of a backend. -/
def isPlain : Occurrence → Bool
  | .returned .. | .refreshed _ | .unrefreshed => false
  | _ => true

/-- A request is answered. -/
def completion (a : Arrival) (service : Option String) (result : Except Refusal Net.Response)
    (seconds : Float) : Occurrence :=
  .completed a.request.method (a.response result).status (service.getD "-") seconds

end Occurrence

namespace Pipeline

namespace Advance

/-- A step of a request consists of some occurrences; with it the limiter may be called, or a call
of it ends. -/
structure Tells (p : Progress) (x : Advance) (os : List Occurrence) : Prop where
  plain : os.all Occurrence.isPlain = true
  reports : x.reports = os.flatMap Occurrence.reports
  notes : x.notes = os.flatMap Occurrence.notes
  calls : p.isCounting.toNat + x.notes.countP Note.isAdmitting =
    x.notes.countP Note.isDecided + x.notes.countP Note.isUndecided + x.progress.isCounting.toNat

variable {services : List Service} {a : Arrival} {p : Progress} {x : Advance} {seconds : Float}

private theorem after_nil (x : Advance) : x.after [] [] = x := rfl

private theorem misdirected_of_direct {tenant : Tenant.Record} {target : Net.Uri}
    {service : Option String} {e : Refusal}
    (h : direct services tenant target = .error (service, e)) : e.IsMisdirected := by
  rw [direct] at h
  split at h
  · cases h
    exact .inl rfl
  · split at h
    · cases h
    · cases h
      exact .inr rfl

private theorem tells_granted (entry : Entry) (hp : p.isCounting = false) :
    ∃ os, Tells p (identify services a (.granted entry) seconds) os := by
  cases hd : direct services entry.record a.request.target with
  | ok d =>
    refine ⟨[.called], ?_⟩
    simp only [identify, Stage.afterAuthentication, hd]
    exact ⟨rfl, rfl, rfl, by rw [hp]; rfl⟩
  | error found =>
    obtain ⟨service, e⟩ := found
    refine ⟨[.misdirected e (misdirected_of_direct hd),
      .completion a service (.error e) seconds], ?_⟩
    simp only [identify, Stage.afterAuthentication, hd]
    exact ⟨rfl, rfl, rfl, by rw [hp]; rfl⟩

private theorem tells_denied (e : AuthError) (hp : p.isCounting = false) :
    ∃ os, Tells p
      ((identify services a (.denied e) seconds).after [.authFailure e.code] []) os := by
  refine ⟨[.failed e, .completion a none (.error (.ofAuthError e)) seconds], ?_⟩
  cases e <;> exact ⟨rfl, rfl, rfl, by rw [hp]; rfl⟩

private theorem Tells.lookedUp {os : List Occurrence} (h : Tells p x os) (found : Lookup) :
    Tells p (x.after [.cacheLookup found.name] [.identifying]) (.lookedUp found :: os) where
  plain := h.plain
  reports := congrArg _ h.reports
  notes := congrArg _ h.notes
  calls := h.calls

private theorem tells_inquire (c : Cache) (now : Instant) :
    ∃ os, Tells .arrived (inquire services c a now seconds) os := by
  rw [inquire]
  split
  next => exact tells_denied .missing rfl
  next credential _ =>
    by_cases hblank : (Text.trim credential).isEmpty = true
    · simp only [Cache.inquire, hblank, if_true]
      exact tells_denied .missing rfl
    · simp only [Cache.inquire, if_neg hblank]
      generalize c.lookup (Fingerprint.ofCredential (Text.trim credential)) now = found
      cases found with
      | hit entry =>
        obtain ⟨os, hos⟩ := tells_granted (p := .arrived) entry rfl
        exact ⟨_, hos.lookedUp (.hit entry)⟩
      | expired entry => exact ⟨[.lookedUp (.expired entry)], rfl, rfl, rfl, rfl⟩
      | miss => exact ⟨[.lookedUp .miss], rfl, rfl, rfl, rfl⟩

private theorem tells_learn (f : Fingerprint) (stale : Option Entry) (v : Verdict) :
    ∃ os, Tells (.asking f stale) (learn services a v seconds) os := by
  cases v with
  | granted entry =>
    have hquiet : (Verdict.granted entry).measurements = [] := rfl
    rw [learn, hquiet, after_nil]
    exact tells_granted entry rfl
  | denied e => exact tells_denied e rfl
  | deadlineOverflow => exact ⟨[], rfl, rfl, rfl, rfl⟩

private theorem tells_count (l : Limiter) (d : Direction) (time : Calendar.Timestamp)
    (delay : Duration) (reply : Except RateLimit.StoreFailure RateLimit.CounterReply) :
    ∃ os, Tells (.reached (.counting d)) (count l a d time delay reply seconds) os := by
  rw [count]
  split
  next r took _ =>
    cases hadmission : Refusal.ofAdmission (l.applyPolicy r) with
    | ok decision =>
      refine ⟨[.decided (l.applyPolicy r) (took.nanos.toFloat / 1e9)], ?_⟩
      simp only [Stage.afterCounting, hadmission]
      refine ⟨rfl, ?_, rfl, rfl⟩
      simp only [List.flatMap_singleton, Occurrence.reports, hadmission]
      rfl
    | error e =>
      refine ⟨[.decided (l.applyPolicy r) (took.nanos.toFloat / 1e9),
        .completion a (some d.service) (.error e) seconds], ?_⟩
      simp only [Stage.afterCounting, hadmission]
      refine ⟨rfl, ?_, rfl, rfl⟩
      simp only [List.flatMap_cons, Occurrence.reports, hadmission]
      rfl
  next => exact ⟨[.undecided], rfl, rfl, rfl, rfl⟩

private theorem tells_giveUp (p : Progress) : ∃ os, Tells p (giveUp p) os := by
  cases hp : p.isCounting with
  | false =>
    refine ⟨[], ?_⟩
    rw [giveUp, hp]
    exact ⟨rfl, rfl, rfl, by rw [hp]; rfl⟩
  | true =>
    refine ⟨[.undecided], ?_⟩
    rw [giveUp, hp]
    exact ⟨rfl, rfl, rfl, by rw [hp]; rfl⟩

/-- Every step of a request is some occurrences. -/
theorem tells_of_next {l : Limiter} (h : Next services l a p x) : ∃ os, Tells p x os := by
  cases h with
  | inquired c now seconds => exact tells_inquire c now
  | learned f stale v seconds => exact tells_learn f stale v
  | counted d time delay reply seconds => exact tells_count l d time delay reply
  | gaveUp => exact tells_giveUp p

/-- A backend's answer is the last step of a request. -/
theorem tells_reply (h : Handled) (decision : Option Decision) (took seconds : Float) :
    ∃ method status service,
      (reply h decision took seconds).reports =
        [Occurrence.returned h took, .completed method status service seconds].flatMap
          Occurrence.reports ∧
      (reply h decision took seconds).notes = [.completed] ∧
      (reply h decision took seconds).progress.isCounting = false := by
  obtain ⟨arrival, direction, answer, millis, time⟩ := h
  cases answer with
  | responded r => exact ⟨_, _, _, rfl, rfl, rfl⟩
  | unreachable reason => exact ⟨_, _, _, rfl, rfl, rfl⟩
  | late => exact ⟨_, _, _, rfl, rfl, rfl⟩

end Advance

end Pipeline

end TenantGateway
