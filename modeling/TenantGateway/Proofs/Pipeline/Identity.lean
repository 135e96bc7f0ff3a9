import TenantGateway.Pipeline.Stage
import TenantGateway.Proofs.Net.Headers

/-! Whatever a client claims about itself, a backend hears of it from the gateway only. The five names
that carry a credential or an identity lose what the client has sent, and the three passes over the
header fields cannot tell apart two requests that differ in nothing else. -/
namespace TenantGateway

namespace Headers

/-- Two lists of fields have the same values of every name but some. -/
def AgreeBut (names : List String) (h g : Headers) : Prop :=
  ∀ name, name ∉ names → h.getAll name = g.getAll name

variable {names : List String} {name : String} {h g : Headers}

private theorem AgreeBut.get?_eq (hagree : AgreeBut names h g) (hname : name ∉ names) :
    h.get? name = g.get? name := by
  rw [get?_eq_head?_getAll, get?_eq_head?_getAll, hagree name hname]

private theorem AgreeBut.readable?_eq (hagree : AgreeBut names h g) (hname : name ∉ names) :
    h.readable? name = g.readable? name := by
  rw [readable?, readable?, hagree.get?_eq hname]

/-- A name that both lose is no difference any more. -/
theorem AgreeBut.remove (hagree : AgreeBut (name :: names) h g) :
    AgreeBut names (h.remove name) (g.remove name) := by
  intro other hother
  by_cases hname : name = other
  · subst hname
    rw [getAll_remove_self, getAll_remove_self]
  · rw [getAll_remove_of_ne _ hname, getAll_remove_of_ne _ hname]
    apply hagree
    rw [List.mem_cons, not_or]
    exact ⟨Ne.symm hname, hother⟩

private theorem AgreeBut.set (hagree : AgreeBut names h g) (name value : String) :
    AgreeBut names (h.set name value) (g.set name value) := by
  intro other hother
  by_cases hname : name = other
  · subst hname
    rw [getAll_set_self, getAll_set_self]
  · rw [getAll_set_of_ne _ _ hname, getAll_set_of_ne _ _ hname, hagree other hother]

private theorem AgreeBut.setValid (hagree : AgreeBut names h g) (name value : String) :
    AgreeBut names (h.setValid name value) (g.setValid name value) := by
  rw [Headers.setValid, Headers.setValid]
  split
  · exact hagree.set name value
  · exact hagree

end Headers

namespace Forwarding
open Net (IpAddress)
open Tenant (Record)

/-- The names under which a client could send a credential or claim an identity. -/
def claimable : List String :=
  ["authorization", "x-api-key", "x-organization-id", "x-api-key-id", "x-request-id"]

/-- The names that tell of the way a request has taken. -/
def wayNames : List String := ["x-forwarded-for", "x-forwarded-host", "x-forwarded-proto"]

/-- What the gateway says of a caller, by name. -/
def identity (tenant : Record) (id : String) : List (String × String) :=
  [("x-organization-id", tenant.organization), ("x-api-key-id", tenant.keyId), ("x-request-id", id)]

/-- All three passes over the fields of a request. -/
def rewrite (h : Headers) (tenant : Record) (id : String) (peer : IpAddress) : Headers :=
  addForwarded (injectIdentity (stripCredentials h) tenant.organization tenant.keyId id) peer

/-- What is sent to a backend has the rewritten fields, without the client's `host`. -/
theorem headers_outgoing (d : Pipeline.Direction) (a : Pipeline.Arrival) :
    (d.outgoing a).headers = (rewrite a.request.headers d.tenant a.id a.peer).remove "host" := by
  rw [Pipeline.Direction.outgoing, rewrite]

variable {names : List String} {h g : Headers}

private theorem getAll_replace_self (h : Headers) (name value : String) :
    (replace h name value).getAll name = if Headers.isValue value then [value] else [] := by
  rw [replace]
  split
  next hvalue => exact Headers.getAll_setValid_self _ hvalue
  next hvalue => rw [Headers.setValid, if_neg hvalue, Headers.getAll_remove_self]

private theorem getAll_replace_of_ne (h : Headers) {name other : String} (value : String)
    (hne : name ≠ other) : (replace h name value).getAll other = h.getAll other := by
  rw [replace, Headers.getAll_setValid_of_ne _ _ hne, Headers.getAll_remove_of_ne _ hne]

private theorem agreeBut_stripCredentials
    (hagree : Headers.AgreeBut ("authorization" :: "x-api-key" :: names) h g) :
    Headers.AgreeBut names (stripCredentials h) (stripCredentials g) := by
  -- The names leave the list in the order in which they are dropped.
  have hfirst := hagree.remove
  exact hfirst.remove

private theorem agreeBut_replace {name : String} (value : String)
    (hagree : Headers.AgreeBut (name :: names) h g) :
    Headers.AgreeBut names (replace h name value) (replace g name value) :=
  hagree.remove.setValid name value

/-- The addresses that a request has come through, the peer last. -/
def hops (h : Headers) (peer : IpAddress) : String :=
  match h.readable? "x-forwarded-for" with
  | some hops => hops ++ ", " ++ peer.text
  | none => peer.text

/-- The host that a request has asked for replaces the client's word for it. -/
def noteHost (h : Headers) : Headers :=
  match h.get? "host" with
  | some host => h.set "x-forwarded-host" host
  | none => h

/-- The peer is noted in three steps, the last of which says by which protocol it came. -/
theorem addForwarded_eq (h : Headers) (peer : IpAddress) :
    addForwarded h peer =
      (noteHost (h.setValid "x-forwarded-for" (hops h peer))).set "x-forwarded-proto" "http" := rfl

private theorem agreeBut_noteHost (hagree : Headers.AgreeBut [] h g) :
    Headers.AgreeBut [] (noteHost h) (noteHost g) := by
  rw [noteHost, noteHost, hagree.get?_eq List.not_mem_nil]
  split
  next host _ => exact hagree.set "x-forwarded-host" host
  next => exact hagree

private theorem agreeBut_addForwarded (peer : IpAddress) (hagree : Headers.AgreeBut [] h g) :
    Headers.AgreeBut [] (addForwarded h peer) (addForwarded g peer) := by
  have hhops : hops h peer = hops g peer := by
    rw [hops, hops, hagree.readable?_eq List.not_mem_nil]
  rw [addForwarded_eq, addForwarded_eq, hhops]
  apply Headers.AgreeBut.set
  apply agreeBut_noteHost
  exact hagree.setValid "x-forwarded-for" (hops g peer)

private theorem agreeBut_rewrite (tenant : Record) (id : String) (peer : IpAddress)
    (hagree : Headers.AgreeBut claimable h g) :
    Headers.AgreeBut [] (rewrite h tenant id peer) (rewrite g tenant id peer) := by
  have hstripped := agreeBut_stripCredentials hagree
  have horganization := agreeBut_replace tenant.organization hstripped
  have hkey := agreeBut_replace tenant.keyId horganization
  exact agreeBut_addForwarded peer (agreeBut_replace id hkey)

private theorem getAll_stripCredentials_of_ne (h : Headers) {name : String}
    (hbearer : "authorization" ≠ name) (hkey : "x-api-key" ≠ name) :
    (stripCredentials h).getAll name = h.getAll name := by
  rw [stripCredentials, Headers.getAll_remove_of_ne _ hkey, Headers.getAll_remove_of_ne _ hbearer]

private theorem getAll_stripCredentials (h : Headers) {name : String}
    (hname : name = "authorization" ∨ name = "x-api-key") :
    (stripCredentials h).getAll name = [] := by
  rw [stripCredentials]
  rcases hname with rfl | rfl
  · rw [Headers.getAll_remove_of_ne _ (by decide), Headers.getAll_remove_self]
  · exact Headers.getAll_remove_self _ _

private theorem getAll_injectIdentity_of_ne (h : Headers) (organization keyId id : String)
    {name : String} (horganization : "x-organization-id" ≠ name) (hkey : "x-api-key-id" ≠ name)
    (hid : "x-request-id" ≠ name) :
    (injectIdentity h organization keyId id).getAll name = h.getAll name := by
  rw [injectIdentity, getAll_replace_of_ne _ _ hid, getAll_replace_of_ne _ _ hkey,
    getAll_replace_of_ne _ _ horganization]

private theorem getAll_injectIdentity (h : Headers) (tenant : Record) (id : String)
    {name value : String} (hfield : (name, value) ∈ identity tenant id) :
    (injectIdentity h tenant.organization tenant.keyId id).getAll name =
      if Headers.isValue value then [value] else [] := by
  rw [injectIdentity]
  simp only [identity, List.mem_cons, Prod.mk.injEq, List.not_mem_nil, or_false] at hfield
  rcases hfield with ⟨rfl, rfl⟩ | ⟨rfl, rfl⟩ | ⟨rfl, rfl⟩
  · rw [getAll_replace_of_ne _ _ (by decide), getAll_replace_of_ne _ _ (by decide),
      getAll_replace_self]
  · rw [getAll_replace_of_ne _ _ (by decide), getAll_replace_self]
  · exact getAll_replace_self _ _ _

/-- Only the gateway speaks of the caller. -/
structure Impersonal (tenant : Record) (id : String) (peer : IpAddress) (h : Headers) : Prop where
  withheld : ∀ name, name = "authorization" ∨ name = "x-api-key" →
    (rewrite h tenant id peer).getAll name = []
  anonymous : Tenant.credential? (rewrite h tenant id peer) = none
  /-- A text that cannot be sent is not sent, and nothing else in its place. -/
  named : ∀ name value, (name, value) ∈ identity tenant id →
    (rewrite h tenant id peer).getAll name = if Headers.isValue value then [value] else []
  kept : ∀ name, name ∉ claimable → name ∉ wayNames →
    (rewrite h tenant id peer).getAll name = h.getAll name
  blind : ∀ g, Headers.AgreeBut claimable h g →
    Headers.AgreeBut [] (rewrite h tenant id peer) (rewrite g tenant id peer)

private theorem getAll_rewrite (h : Headers) (tenant : Record) (id : String) (peer : IpAddress)
    {name : String} (hway : name ∉ wayNames) :
    (rewrite h tenant id peer).getAll name =
      (injectIdentity (stripCredentials h) tenant.organization tenant.keyId id).getAll name := by
  simp only [wayNames, List.mem_cons, List.not_mem_nil, or_false, not_or] at hway
  obtain ⟨hfor, hhost, hproto⟩ := hway
  exact getAll_addForwarded _ peer (Ne.symm hfor) (Ne.symm hhost) (Ne.symm hproto)

private theorem getAll_rewrite_credential (h : Headers) (tenant : Record) (id : String)
    (peer : IpAddress) {name : String} (hname : name = "authorization" ∨ name = "x-api-key") :
    (rewrite h tenant id peer).getAll name = [] := by
  have hstripped := getAll_stripCredentials h hname
  rcases hname with rfl | rfl
  all_goals
    rw [getAll_rewrite _ _ _ _ (by decide),
      getAll_injectIdentity_of_ne _ _ _ _ (by decide) (by decide) (by decide), hstripped]

private theorem credential?_eq_none {h : Headers} (hbearer : h.getAll "authorization" = [])
    (hkey : h.getAll "x-api-key" = []) : Tenant.credential? h = none := by
  rw [Tenant.credential?, Headers.readable?, Headers.readable?, Headers.get?_eq_head?_getAll,
    Headers.get?_eq_head?_getAll, hbearer, hkey]
  rfl

/-- What a backend learns about the caller does not depend on what the client claims: no credential
gets through, each name of the identity has the gateway's value or none, every other field but those
of the way is kept, and requests that differ in the five names alone become the same. -/
theorem impersonal_rewrite (tenant : Record) (id : String) (peer : IpAddress) (h : Headers) :
    Impersonal tenant id peer h where
  withheld _ hname := getAll_rewrite_credential h tenant id peer hname
  anonymous :=
    credential?_eq_none (getAll_rewrite_credential h tenant id peer (.inl rfl))
      (getAll_rewrite_credential h tenant id peer (.inr rfl))
  named := by
    intro name value hfield
    have hway : name ∉ wayNames := by
      simp only [identity, List.mem_cons, Prod.mk.injEq, List.not_mem_nil, or_false] at hfield
      rcases hfield with ⟨rfl, -⟩ | ⟨rfl, -⟩ | ⟨rfl, -⟩
      all_goals decide
    rw [getAll_rewrite _ _ _ _ hway, getAll_injectIdentity _ _ _ hfield]
  kept := by
    intro name hname hway
    simp only [claimable, List.mem_cons, List.not_mem_nil, or_false, not_or] at hname
    obtain ⟨hbearer, hkey, horganization, hkeyId, hid⟩ := hname
    rw [getAll_rewrite _ _ _ _ hway,
      getAll_injectIdentity_of_ne _ _ _ _ (Ne.symm horganization) (Ne.symm hkeyId) (Ne.symm hid),
      getAll_stripCredentials_of_ne _ (Ne.symm hbearer) (Ne.symm hkey)]
  blind _ hagree := agreeBut_rewrite tenant id peer hagree

end Forwarding

end TenantGateway
