import TenantGateway.Clock
import TenantGateway.Pipeline.Refusal
import TenantGateway.Simulation.Wire

/-!
Backends that follow a script, and the client that sends requests to them.
-/

namespace TenantGateway.Simulation

open Net (Request Response Uri)

/-- What a backend does with a request. -/
inductive Behaviour where
  | responds (r : Response) (delay : Duration)
  /-- Nobody listens. -/
  | refuses
  /-- It reads the request and stays silent. -/
  | hangs
  /-- It reads the request and closes the connection. -/
  | closes

/-- A backend at a host and port. -/
structure Backend where
  host : String
  port : Nat
  behaviour : Behaviour

/-- A request as a backend has read it. -/
structure Sighting where
  backend : Nat
  method : String
  uri : String
  headers : Headers
  body : String

/-- Why a client gets no response. -/
inductive ClientError where
  /-- The address has no scheme or no authority. -/
  | relativeAddress
  | connect
  /-- The request needs a newer version than the connection speaks. -/
  | unsupportedVersion
  | sendRequest
  deriving DecidableEq, Repr

def ClientError.message : ClientError → String
  | .relativeAddress => "client error (UserAbsoluteUriRequired)"
  | .connect => "client error (Connect)"
  | .unsupportedVersion => "client error (UserUnsupportedVersion)"
  | .sendRequest => "client error (SendRequest)"

/-- A call to a backend: how long it takes, what the backend sees, and how it ends. -/
structure Call where
  took : Duration
  sighting : Option Sighting
  result : Except Refusal Response

namespace Call

def failing (e : ClientError) (sighting : Option Sighting) : Call :=
  { took := .zero, sighting, result := .error (.backendUnavailable e.message) }

/-- The backend at an address, with its number. -/
def backend? (backends : List Backend) (target : Uri) : Option (Nat × Backend) := do
  let host ← target.host?
  let port := target.port?.getD 80
  let index ← backends.findIdx? fun b => b.host = host ∧ b.port = port
  return (index, ← backends[index]?)

/-- The request on its way to a backend, to whose host it is addressed. -/
def sightingAt (index : Nat) (b : Backend) (r : Request) : Sighting :=
  let host := if b.port = 80 then b.host else b.host ++ ":" ++ toString b.port
  let r := Wire.deliverRequest { r with headers := r.headers ++ [("host", host)] }
  { backend := index, method := r.method, uri := r.target.pathAndQuery, headers := r.headers
    body := r.body }

/-- Sends a request; what takes as long as the deadline is too late. -/
def send (backends : List Backend) (r : Request) (deadline : Duration) : Call :=
  if r.target.scheme.isNone ∨ r.target.authority.isNone then failing .relativeAddress none
  else if r.target.scheme ≠ some "http" then failing .connect none
  else
    match backend? backends r.target with
    | none => failing .connect none
    | some (index, b) =>
      let seen := some (sightingAt index b r)
      let late : Call := { took := deadline, sighting := seen, result := .error .backendTimeout }
      match b.behaviour with
      | .refuses => failing .connect none
      | behaviour =>
        if r.version = .http2 then failing .unsupportedVersion none
        else
          match behaviour with
          | .responds response delay =>
            if deadline ≤ delay then late
            else
              { took := delay, sighting := seen
                result := .ok (Wire.deliverResponse r false response) }
          | .closes => failing .sendRequest seen
          | .refuses | .hangs => late

end Call

end TenantGateway.Simulation
