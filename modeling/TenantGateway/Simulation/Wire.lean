import TenantGateway.Net.Message
import TenantGateway.Text.Ascii
import TenantGateway.Text.Numeral
import TenantGateway.Text.Split

/-!
What happens to messages between two ends of a connection: which fields the transport adds, which
bodies it leaves out, and when it closes the connection.
-/

namespace TenantGateway.Simulation.Wire

open Net (Request Response HttpVersion)

/-- Blanks and tabs around a value do not arrive. -/
def trimValue (s : String) : String :=
  let isPad (c : Char) : Bool := c == ' ' || c == '\t'
  String.ofList (((s.toList.dropWhile isPad).reverse.dropWhile isPad).reverse)

/-- The options that a field lists. -/
def options (value : String) : List String :=
  (Text.splitAtEach ',' value.toList).map fun cs =>
    Text.lowercaseAscii (trimValue (String.ofList cs))

def hasOption (name value : String) : Bool := (options value).contains name

/-- The last of the options that a field lists. -/
def lastOption (value : String) : String := (options value).getLast?.getD ""

def hasConnectionOption (h : Headers) (name : String) : Bool :=
  (h.getAll "connection").any (hasOption name)

/-- Adds the length of a body where nothing else tells it. -/
def withLength (h : Headers) (body : String) : Headers :=
  if (h.get? "content-length").isSome ∨ (h.get? "transfer-encoding").isSome then h
  else h ++ [("content-length", toString body.utf8ByteSize)]

/-- A request as it arrives: a length accompanies a body that is not empty. -/
def deliverRequest (r : Request) : Request :=
  let h :=
    match r.version with
    | .http2 => r.headers
    | _ => r.headers.map fun (n, v) => (n, trimValue v)
  { r with headers := if r.body.isEmpty then h else withLength h r.body }

/-- Statuses whose responses never have a body. -/
def isBodiless (status : UInt16) : Bool := status < 200 || status == 204 || status == 304

/-- Whether a request wants its connection closed. -/
def wantsClose (r : Request) : Bool :=
  match r.version with
  | .http10 => ¬hasConnectionOption r.headers "keep-alive"
  | .http11 => hasConnectionOption r.headers "close"
  | .http2 => false

/-- A response as it arrives for a request. A connection that will be closed says so, and so does an
old one that will be kept. -/
def deliverResponse (request : Request) (closing : Bool) (r : Response) : Response :=
  let h := if isBodiless r.status then r.headers else withLength r.headers r.body
  let closing := closing || wantsClose request
  let h :=
    match request.version with
    | .http10 => if closing then h else h.set "connection" "keep-alive"
    | .http11 => if closing then h.set "connection" "close" else h
    | .http2 => h
  { r with
    headers := h
    body := if isBodiless r.status ∨ request.method = "HEAD" then "" else r.body }

end TenantGateway.Simulation.Wire
