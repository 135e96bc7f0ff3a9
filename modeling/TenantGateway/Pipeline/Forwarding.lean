import TenantGateway.Net.Header
import TenantGateway.Net.SocketAddress

/-!
What a backend learns of the caller: the credential is removed, the tenant's identity put in its
place, and the path that the request has taken is noted.
-/

namespace TenantGateway.Forwarding

open Net (IpAddress)

/-- Drops both forms of a credential. -/
def stripCredentials (h : Headers) : Headers :=
  (h.remove "authorization").remove "x-api-key"

/-- Gives a header the gateway's value; whatever the client sent under the name is dropped even
where the value cannot be sent. -/
def replace (h : Headers) (name value : String) : Headers :=
  (h.remove name).setValid name value

/-- Names the tenant, its key and the request. -/
def injectIdentity (h : Headers) (organization keyId requestId : String) : Headers :=
  replace (replace (replace h "x-organization-id" organization) "x-api-key-id" keyId)
    "x-request-id" requestId

/-- Appends the peer to the addresses that the request has come through, and notes the host that was
asked for and the protocol. -/
def addForwarded (h : Headers) (peer : IpAddress) : Headers :=
  let hops :=
    match h.readable? "x-forwarded-for" with
    | some hops => hops ++ ", " ++ peer.text
    | none => peer.text
  let h := h.setValid "x-forwarded-for" hops
  let h :=
    match h.get? "host" with
    | some host => h.set "x-forwarded-host" host
    | none => h
  h.set "x-forwarded-proto" "http"

end TenantGateway.Forwarding
