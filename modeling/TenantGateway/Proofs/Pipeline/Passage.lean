import TenantGateway.Pipeline.Stage

/-! A request on its way through the gateway, one step after the other. Each step is what the gateway
does between two waits: it takes the request on, and reports some measurements. Beside them it leaves
notes of what has happened, which the gateway does not see. -/
namespace TenantGateway.Pipeline
open Calendar (Timestamp)
open RateLimit (Admission CounterReply Decision Limiter LimiterError StoreFailure)
open Tenant (AuthError Cache Entry Fingerprint Verdict)

/-- What a backend does with a request. -/
inductive BackendAnswer where
  | responded (r : Net.Response)
  | unreachable (reason : String)
  /-- Its response has not come in time. -/
  | late

def BackendAnswer.result : BackendAnswer → Except Refusal Net.Response
  | .responded r => .ok r
  | .unreachable reason => .error (.backendUnavailable reason)
  | .late => .error .backendTimeout

/-- A request that was admitted and has been handled to its end. -/
structure Handled where
  arrival : Arrival
  direction : Direction
  answer : BackendAnswer
  millis : UInt64
  time : Timestamp

def Handled.event? (h : Handled) : Option Usage.Event :=
  h.direction.event? h.arrival h.answer.result h.millis h.time

/-- Whatever the backend has done, the request is metered. -/
theorem Handled.exists_event? (h : Handled) : ∃ e, h.event? = some e := by
  obtain ⟨arrival, direction, answer, millis, time⟩ := h
  cases answer with
  | responded | unreachable | late => exact ⟨_, rfl⟩

/-- Where a request has come to. -/
inductive Progress where
  | arrived
  /-- The directory is asked who its caller is. -/
  | asking (f : Fingerprint) (stale : Option Entry)
  | reached (stage : Stage)
  /-- Its client has gone, and nothing more is done for it. -/
  | givenUp

namespace Progress

/-- Nothing more will be done for the request. -/
def isOver : Progress → Bool
  | .reached (.answered ..) | .reached .brokenOff | .givenUp => true
  | _ => false

/-- The limiter is asked about the request. -/
def isCounting : Progress → Bool
  | .reached (.counting _) => true
  | _ => false

end Progress

/-- What is noted of requests. -/
inductive Note where
  /-- Someone is to be authenticated by a credential that is not blank. -/
  | identifying
  | failed (e : AuthError)
  /-- The limiter is called. -/
  | admitting
  | decided (r : Except LimiterError Admission)
  /-- A call of the limiter has come to an end without an outcome. -/
  | undecided
  | completed

namespace Note

def isIdentifying : Note → Bool
  | .identifying => true
  | _ => false

/-- Someone has not been told apart from a stranger, for a reason with some code. -/
def isFailure (code : String) : Note → Bool
  | .failed e => e.code = code
  | _ => false

def isAdmitting : Note → Bool
  | .admitting => true
  | _ => false

def isDecided : Note → Bool
  | .decided _ => true
  | _ => false

def isDenial : Note → Bool
  | .decided (.ok (.denied _)) => true
  | _ => false

def isUndecided : Note → Bool
  | .undecided => true
  | _ => false

def isCompleted : Note → Bool
  | .completed => true
  | _ => false

end Note

/-- What comes of a step of a request. -/
structure Advance where
  progress : Progress
  reports : List Measurement
  notes : List Note

namespace Advance

/-- A step that ends in another one. -/
def after (x : Advance) (reports : List Measurement) (notes : List Note) : Advance :=
  { x with reports := reports ++ x.reports, notes := notes ++ x.notes }

/-- The request comes to its next stage, in which it may call the limiter or be answered. -/
def enter (a : Arrival) (seconds : Float) : Stage → Advance
  | .counting d => ⟨.reached (.counting d), [], [.admitting]⟩
  | .answered service result =>
    ⟨.reached (.answered service result), a.measurements service result seconds, [.completed]⟩
  | stage => ⟨.reached stage, [], []⟩

def notesOf : Verdict → List Note
  | .denied e => [.failed e]
  | _ => []

/-- The caller has been told apart from a stranger, or not. -/
def identify (services : List Service) (a : Arrival) (v : Verdict) (seconds : Float) : Advance :=
  (enter a seconds (.afterAuthentication services a v)).after [] (notesOf v)

/-- The cache is looked at for the request's credential. -/
def inquire (services : List Service) (c : Cache) (a : Arrival) (now : Instant) (seconds : Float) :
    Advance :=
  match Tenant.credential? a.request.headers with
  | none =>
    (identify services a (.denied .missing) seconds).after [.authFailure AuthError.missing.code] []
  | some credential =>
    let notes : List Note := if (Text.trim credential).isEmpty then [] else [.identifying]
    match c.inquire credential now with
    | (.done v, reports) => (identify services a v seconds).after reports notes
    | (.ask f stale, reports) => ⟨.asking f stale, reports, notes⟩

/-- The directory has told who the caller is. -/
def learn (services : List Service) (a : Arrival) (v : Verdict) (seconds : Float) : Advance :=
  (identify services a v seconds).after v.measurements []

/-- The counter store has replied, or has failed to, after some time. -/
def count (l : Limiter) (a : Arrival) (d : Direction) (time : Timestamp) (delay : Duration)
    (reply : Except StoreFailure CounterReply) (seconds : Float) : Advance :=
  match l.settle (l.query d.tenant.organization d.tenant.quota time) time delay reply with
  | (.answer r, took) =>
    let admission := l.applyPolicy r
    (enter a seconds (.afterCounting d (some admission))).after
      [.rateLimitDuration (took.nanos.toFloat / 1e9), Limiter.measurement admission]
      [.decided admission]
  | (.deadlineOverflow, _) =>
    (enter a seconds (.afterCounting d none)).after [] [.undecided]

/-- The backend is done with the request. -/
def reply (h : Handled) (decision : Option Decision) (took seconds : Float) : Advance :=
  (enter h.arrival seconds (.afterForwarding h.direction decision h.answer.result)).after
    [forwardingMeasurement h.direction.service h.answer.result took] []

/-- The client has gone. -/
def giveUp (p : Progress) : Advance :=
  ⟨.givenUp, [], if p.isCounting then [.undecided] else []⟩

/-- The steps that a request can take, except to its answer from a backend. -/
inductive Next (services : List Service) (l : Limiter) (a : Arrival) : Progress → Advance → Prop where
  | inquired (c : Cache) (now : Instant) (seconds : Float) :
      Next services l a .arrived (.inquire services c a now seconds)
  | learned (f : Fingerprint) (stale : Option Entry) (v : Verdict) (seconds : Float) :
      Next services l a (.asking f stale) (.learn services a v seconds)
  | counted (d : Direction) (time : Timestamp) (delay : Duration)
      (reply : Except StoreFailure CounterReply) (seconds : Float) :
      Next services l a (.reached (.counting d)) (.count l a d time delay reply seconds)
  | gaveUp {p : Progress} (going : p.isOver = false) : Next services l a p (.giveUp p)

/-- Only a request that is under way takes a step. -/
theorem Next.isOver {services : List Service} {l : Limiter} {a : Arrival} {p : Progress}
    {x : Advance} (h : Next services l a p x) : p.isOver = false := by
  cases h with
  | inquired | learned | counted => rfl
  | gaveUp going => exact going

end Advance

end TenantGateway.Pipeline
