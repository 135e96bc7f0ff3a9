import TenantGateway.Net.Header
import TenantGateway.Net.Uri

/-!
The two kinds of message: a request with its target, and the response to it.
-/

namespace TenantGateway.Net

/-- A version of the protocol that a client can speak. -/
inductive HttpVersion where
  | http10
  | http11
  | http2
  deriving DecidableEq, Repr

structure Request where
  method : String
  target : Uri
  version : HttpVersion
  headers : Headers
  body : String
  deriving DecidableEq, Repr

structure Response where
  status : UInt16
  headers : Headers
  body : String
  deriving DecidableEq, Repr

/-- The path and query by which a request is routed; a target that is an authority alone counts as
the root. -/
def Uri.routingPath (u : Uri) : String :=
  if u.scheme.isNone ∧ u.authority.isSome then "/" else u.pathAndQuery

end TenantGateway.Net
