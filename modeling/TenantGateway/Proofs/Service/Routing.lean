import TenantGateway.Pipeline.Stage
import TenantGateway.Proofs.Net.Addresses
import TenantGateway.Proofs.Service.Resolution

/-! Where requests go. A backend's address is made of a service's own address and of a text that the
client has chosen; the text can only follow the authority, so that the client has no say in which host
is asked. -/
namespace TenantGateway

namespace Net

private theorem ne_slash_of_not_isDelimiter {c : Char} (h : !isDelimiter c) :
    (c == '/') = false := by
  rw [beq_eq_false_iff_ne]
  rintro rfl
  exact absurd h (by decide)

private theorem EndsAuthority.glue {cs start more : List Char} (h : EndsAuthority cs)
    (hstart : start <+: cs) (hmore : EndsAuthority more) : EndsAuthority (start ++ more) := by
  cases start with
  | nil => exact hmore
  | cons c start =>
    obtain ⟨rest, rfl⟩ := hstart
    exact h

end Net

namespace Route

variable {services : List Service} {path : String} {r : Route}

/-- A route leads to one of the services, with a path that begins as the request's does. -/
theorem resolve?_eq_some (h : resolve? services path = some r)
    (hpath : path.toList.head? = some '/') :
    r.service ∈ services ∧ r.backendPath.toList.head? = some '/' := by
  obtain ⟨c, hc⟩ := Cut.exists_of_head hpath
  obtain ⟨-, service, hfind, rfl⟩ := (resolve?_eq_some_iff hc).mp h
  refine ⟨List.mem_of_find?_eq_some hfind, ?_⟩
  rw [Cut.route, String.toList_ofList, Cut.backendPath]
  split <;> rfl

/-- The address of a backend is its service's own, with the route's path behind what is left of it
without the slashes at its end. -/
theorem exists_plainAddress {home u : Net.Uri} (hhome : Net.Uri.parse r.service.url = .ok home)
    (hplain : home.scheme = some "http") (hpath : r.backendPath.toList.head? = some '/')
    (hu : r.backendUri = .ok u) :
    ∃ p : Net.PlainAddress, r.service.url.toList = p.toList ∧
      (Net.splitPathQuery p.tail).map p.uri = .ok home ∧
      (Net.splitPathQuery (Text.dropTailWhile (· == '/') p.tail ++ r.backendPath.toList)).map p.uri =
        .ok u := by
  obtain ⟨p, hp, hparts⟩ := Net.PlainAddress.exists_of_parse hhome hplain
  have hends : Net.EndsAuthority r.backendPath.toList := by
    intro c hc
    rw [hpath] at hc
    cases hc
    rfl
  have hglued := p.ends.glue (Text.dropTailWhile_prefix (· == '/') p.tail) hends
  have hbase : Text.dropTailWhile (· == '/') r.service.url.toList =
      p.front ++ p.authority ++ Text.dropTailWhile (· == '/') p.tail := by
    obtain ⟨start, c, hlast⟩ : ∃ start c, p.authority = start ++ [c] :=
      ⟨_, _, (List.dropLast_concat_getLast p.nonempty).symm⟩
    have hc := List.all_eq_true.mp p.all_authority c (hlast ▸ List.mem_concat_self)
    rw [hp, Net.PlainAddress.toList, hlast, ← List.append_assoc]
    exact Text.dropTailWhile_append (p := (· == '/')) (Net.ne_slash_of_not_isDelimiter hc) p.tail
  have htext : (String.ofList (Text.dropTailWhile (· == '/') r.service.url.toList) ++
      r.backendPath).toList = (p.goOn _ hglued).toList := by
    rw [String.toList_append, String.toList_ofList, hbase, List.append_assoc]
    rfl
  rw [backendUri, Net.PlainAddress.parse_eq _ htext] at hu
  split at hu
  · cases hu
  · exact ⟨p, hp, hparts, hu⟩

/-- The address of a backend has the scheme and the authority of its service's own. -/
theorem authority_of_backendUri {home u : Net.Uri} (hhome : Net.Uri.parse r.service.url = .ok home)
    (hplain : home.scheme = some "http") (hpath : r.backendPath.toList.head? = some '/')
    (hu : r.backendUri = .ok u) :
    u.scheme = some "http" ∧ home.authority.isSome ∧ u.authority = home.authority := by
  obtain ⟨p, -, hparts, hglued⟩ := exists_plainAddress hhome hplain hpath hu
  obtain ⟨hscheme, hauthority⟩ := Net.PlainAddress.authority_of_map_uri hglued
  obtain ⟨-, hown⟩ := Net.PlainAddress.authority_of_map_uri hparts
  exact ⟨hscheme, hown ▸ rfl, hauthority.trans hown.symm⟩

/-- Whatever a client asks for, the request goes to the very user, host and port of the address that is
set for its service. -/
theorem authority_of_validate (s : Settings) (hvalid : s.validate = .ok ()) (path : String)
    (hpath : path.toList.head? = some '/') (r : Route) (hr : resolve? s.services path = some r)
    (u : Net.Uri) (hu : r.backendUri = .ok u) :
    r.service ∈ s.services ∧ ∃ home, Net.Uri.parse r.service.url = .ok home ∧
      u.scheme = some "http" ∧ home.authority.isSome ∧ u.authority = home.authority := by
  obtain ⟨hservice, hstart⟩ := resolve?_eq_some hr hpath
  obtain ⟨home, hhome, hplain⟩ :=
    Settings.plain_of_checkServices (Settings.checkServices_of_validate hvalid) hservice
  exact ⟨hservice, home, hhome, authority_of_backendUri hhome hplain hstart hu⟩

-- A service with a user, a numeric host and a query in its address.
private def guarded : Settings :=
  { listen := ⟨.v4 [127, 0, 0, 1], 8080, 0⟩
    services := [⟨"billing", "HTTP://me@[::1]:8080/api?x=//", false⟩] }

/-- A path that looks like another user and host stays behind the service's own. -/
theorem authority_of_validate_lookalike :
    guarded.validate = .ok () ∧ "/billing/@evil:80/..%2f#?q".toList.head? = some '/' ∧
      ∃ r u, resolve? guarded.services "/billing/@evil:80/..%2f#?q" = some r ∧
        r.backendUri = .ok u ∧ u.path = "/api" ∧ ∃ home, Net.Uri.parse r.service.url = .ok home ∧
          home.authority = some "me@[::1]:8080" ∧ u.authority = home.authority := by
  have hvalid : guarded.validate = .ok () := by rfl
  have hpath : "/billing/@evil:80/..%2f#?q".toList.head? = some '/' := by decide
  have hr : resolve? guarded.services "/billing/@evil:80/..%2f#?q" =
      some ⟨⟨"billing", "HTTP://me@[::1]:8080/api?x=//", false⟩, "/billing/@evil:80/..%2f#?q"⟩ := by
    rfl
  have hu : Route.backendUri
      ⟨⟨"billing", "HTTP://me@[::1]:8080/api?x=//", false⟩, "/billing/@evil:80/..%2f#?q"⟩ =
        .ok ⟨some "http", some "me@[::1]:8080", "/api", some "x=/billing/@evil:80/..%2f"⟩ := by
    rfl
  obtain ⟨-, home, hhome, -, -, hauthority⟩ :=
    authority_of_validate guarded hvalid _ hpath _ hr _ hu
  exact ⟨hvalid, hpath, _, _, hr, hu, rfl, home, hhome, hauthority.symm, hauthority⟩

end Route

namespace Pipeline

/-- The same of a request on its way through the gateway. -/
theorem authority_of_direct {services : List Service} {tenant : Tenant.Record} {target : Net.Uri}
    {d : Direction} (hvalid : Settings.checkServices [] services = .ok ())
    (hpath : target.routingPath.toList.head? = some '/')
    (hd : direct services tenant target = .ok d) (a : Arrival) :
    ∃ s ∈ services, s.name = d.service ∧ ∃ home, Net.Uri.parse s.url = .ok home ∧
      (d.outgoing a).target.scheme = some "http" ∧
      (d.outgoing a).target.authority = home.authority := by
  rw [direct] at hd
  split at hd
  · cases hd
  next route hroute =>
    obtain ⟨hservice, hstart⟩ := Route.resolve?_eq_some hroute hpath
    obtain ⟨home, hhome, hplain⟩ := Settings.plain_of_checkServices hvalid hservice
    split at hd
    next uri huri =>
      cases hd
      obtain ⟨hscheme, -, hauthority⟩ := Route.authority_of_backendUri hhome hplain hstart huri
      exact ⟨route.service, hservice, rfl, home, hhome, hscheme, hauthority⟩
    · cases hd

end Pipeline

end TenantGateway
