import TenantGateway.Metrics.Measurement
import TenantGateway.Tenant.Cache
import TenantGateway.Tenant.Directory

/-!
Telling who a caller is. A good entry of the cache decides at once. Otherwise the directory is asked
about the one key; when it fails, an entry that has expired is better than none.

The question to the directory takes time in which anything may happen to the cache, so that the work
comes in two parts: `inquire` before the question and `settle` after the answer.
-/

namespace TenantGateway.Tenant

/-- Why a caller is not told apart from a stranger. -/
inductive AuthError where
  | missing
  | invalid
  | unavailable (reason : String)
  deriving DecidableEq, Repr

namespace AuthError

def code : AuthError → String
  | .missing => "auth_missing"
  | .invalid => "auth_invalid"
  | .unavailable _ => "auth_unavailable"

def message : AuthError → String
  | .missing => "no API key provided"
  | .invalid => "invalid API key"
  | .unavailable reason => "authentication temporarily unavailable: " ++ reason

end AuthError

/-- How an authentication ends. -/
inductive Verdict where
  | granted (e : Entry)
  | denied (e : AuthError)
  /-- The end of the new entry lies outside the clock's range. -/
  | deadlineOverflow
  deriving DecidableEq, Repr

/-- How an authentication goes on after the cache has been looked at. -/
inductive Inquiry where
  | done (v : Verdict)
  /-- The directory has to be asked; `stale` is the entry that has expired, if there is one. -/
  | ask (f : Fingerprint) (stale : Option Entry)
  deriving DecidableEq, Repr

namespace Cache

/-- Looks at the cache for a credential; gives what is reported of it, too. -/
def inquire (c : Cache) (credential : String) (now : Instant) : Inquiry × List Measurement :=
  let credential := Text.trim credential
  if credential.isEmpty then
    (.done (.denied .missing), [.authFailure AuthError.missing.code])
  else
    let f := Fingerprint.ofCredential credential
    let found := c.lookup f now
    let next :=
      match found with
      | .hit e => .done (.granted e)
      | .expired e => .ask f (some e)
      | .miss => .ask f none
    (next, [.cacheLookup found.name])

/-- Ends an authentication by the directory's answer; a record that it gives is kept. -/
def settle (c : Cache) (ttlSeconds : Nat) (f : Fingerprint) (stale : Option Entry) (now : Instant)
    (answer : Except DirectoryError (Option Record)) : Verdict × Cache :=
  match answer with
  | .ok (some r) =>
    match Entry.lasting? ttlSeconds now f r with
    | some e => (.granted e, c.upsert e)
    | none => (.deadlineOverflow, c)
  | .ok none => (.denied .invalid, c)
  | .error e =>
    match stale with
    | some entry => (.granted entry, c)
    | none => (.denied (.unavailable e.message), c)

end Cache

/-- What is reported of the end of an authentication that asked the directory. -/
def Verdict.measurements : Verdict → List Measurement
  | .denied e => [.authFailure e.code]
  | _ => []

end TenantGateway.Tenant
