import TenantGateway.Net.Status
import TenantGateway.Service.Observation
import TenantGateway.Simulation.Gateway
import TenantGateway.Simulation.Reading

/-!
Conversations on one connection, on which the client writes what it likes: requests one after the
other, or something else.
-/

namespace TenantGateway.Simulation

open Net (Request Response HttpVersion)

/-- What a client sees of a connection: the status lines, and whether the other side closed it. -/
structure Transcript where
  statusLines : List String
  closed : Bool

/-- The first line of a response. -/
def statusLine (version : HttpVersion) (status : UInt16) : String :=
  let name :=
    match version with
    | .http10 => "HTTP/1.0"
    | _ => "HTTP/1.1"
  name ++ " " ++ toString status ++ " " ++ Net.statusPhrase status

/-- How a client of the newer protocol begins. -/
def newerPreface : List Char := "PRI * HTTP/2.0\r\n\r\nSM\r\n\r\n".toList

/-- How a request on a connection is served. -/
inductive Served where
  /-- Its body was not looked at. -/
  | atOnce (r : Response)
  | withBody (r : Response)
  /-- It waits for the rest of its body. -/
  | waiting
  | brokenOff

/-- Answers the requests of an input. When the client has ended its input, so does the connection
once nothing is left to read; a body that was not looked at and is not there in one piece ends it,
too. -/
def converse {σ : Type} (serve : σ → Request → Reading.Extent → Served × σ) (ended : Bool) :
    Nat → σ → List Char → Transcript × σ
  | 0, s, _ => ({ statusLines := [], closed := true }, s)
  | fuel + 1, s, cs =>
    match Reading.next cs with
    | .error .unfinished => ({ statusLines := [], closed := ended }, s)
    | .error (.refused status) =>
      ({ statusLines := [statusLine .http11 status], closed := true }, s)
    | .ok (r, extent, rest) =>
      let answered (response : Response) (closing : Bool) (s : σ) : Transcript × σ :=
        let line := statusLine r.version response.status
        if closing ∨ Wire.wantsClose r then ({ statusLines := [line], closed := true }, s)
        else
          let (t, s) := converse serve ended fuel s rest
          ({ t with statusLines := line :: t.statusLines }, s)
      match serve s r extent with
      | (.atOnce response, s) => answered response (extent ≠ .whole) s
      | (.withBody response, s) => answered response false s
      | (.waiting, s) => ({ statusLines := [], closed := ended }, s)
      | (.brokenOff, s) => ({ statusLines := [], closed := true }, s)

/-- A conversation from its first byte on. The newer protocol has no status lines. -/
def conversation {σ : Type} (serve : σ → Request → Reading.Extent → Served × σ) (ended : Bool)
    (s : σ) (input : String) : Transcript × σ :=
  let cs := input.toList
  if newerPreface.isPrefixOf cs ∨ (cs.isPrefixOf newerPreface ∧ ¬ended) then
    ({ statusLines := [], closed := ended }, s)
  else converse serve ended (cs.length + 1) s cs

namespace GatewaySession

/-- A request on a connection; one that waits for its backend is given up when the client has
already ended its input. -/
def serve (ended : Bool) (s : GatewaySession) (r : Request) (extent : Reading.Extent) :
    Served × GatewaySession :=
  match s.begin r with
  | (.inl p, s) =>
    if ended then (.brokenOff, s)
    else if extent = .beginning then (.waiting, s)
    else
      let (x, s) := (s.runTo p.due).settle p
      (x.response.elim .brokenOff .withBody, s)
  | (.inr x, s) => (x.response.elim .brokenOff .atOnce, s)

/-- A page of the second port. -/
def observe (s : GatewaySession) (r : Request) : Response :=
  Wire.deliverResponse r false
    ((Observation.Page.ofPath r.target.path s.tenants.cache).response s.allReports)

def converse (s : GatewaySession) (input : String) (ended : Bool) : Transcript × GatewaySession :=
  conversation (serve ended) ended s input

def converseAside (s : GatewaySession) (input : String) (ended : Bool) : Transcript :=
  (conversation (fun s r _ => (.atOnce (observe s r), s)) ended s input).1

end GatewaySession

end TenantGateway.Simulation
