import TenantGateway.Net.Header
import TenantGateway.Text.Ascii
import TenantGateway.Text.Blank
import TenantGateway.Text.Split

/-!
Where a request carries its credential: as a bearer token, or else in a header of its own. Only the
first value of either header counts, and only if it is readable.
-/

namespace TenantGateway.Tenant

/-- The text without the white space around it, unless nothing is left. -/
def nonblank? (s : String) : Option String :=
  let s := Text.trim s
  if s.isEmpty then none else some s

/-- The token of an `authorization` value: what follows the scheme `bearer` and a space. -/
def bearerToken? (value : String) : Option String :=
  match Text.splitAtFirst ' ' (Text.trim value).toList with
  | (scheme, some token) =>
    if Text.equalsIgnoringCase (String.ofList scheme) "bearer" then nonblank? (String.ofList token)
    else none
  | (_, none) => none

/-- The credential of a request. -/
def credential? (h : Headers) : Option String :=
  ((h.readable? "authorization").bind bearerToken?).or ((h.readable? "x-api-key").bind nonblank?)

end TenantGateway.Tenant
