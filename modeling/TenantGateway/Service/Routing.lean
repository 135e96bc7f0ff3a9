import TenantGateway.Net.Uri
import TenantGateway.Text.Blank
import TenantGateway.Text.Split

/-!
Services and how a request finds its own: the first segment of the path names it, and the backend's
address is the service's base address followed by the path.
-/

namespace TenantGateway

/-- A backend service. When `stripSegment` is set, the backend does not see the segment that names
it. -/
structure Service where
  name : String
  url : String
  stripSegment : Bool
  deriving DecidableEq, Repr, Inhabited

/-- A service with the path and query that its backend gets. -/
structure Route where
  service : Service
  backendPath : String
  deriving DecidableEq, Repr

namespace Route

/-- The service that the first segment names, if any. -/
def resolve? (services : List Service) (pathAndQuery : String) : Option Route := do
  let (path, query) := Text.splitAtFirst '?' pathAndQuery.toList
  let trimmed :=
    match path with
    | '/' :: rest => rest
    | cs => cs
  let (segment, rest) := Text.splitAtFirst '/' trimmed
  if segment.isEmpty then none
  let service ← services.find? (·.name == String.ofList segment)
  let backendPath := if service.stripSegment then '/' :: rest.getD [] else path
  return { service, backendPath := String.ofList (backendPath ++ query.elim [] ('?' :: ·)) }

/-- The absolute address that the request goes to. -/
def backendUri (r : Route) : Except Net.UriError Net.Uri :=
  let base := Text.dropTailWhile (· == '/') r.service.url.toList
  Net.Uri.parse (String.ofList base ++ r.backendPath)

end Route

end TenantGateway
