import TenantGateway.Proofs.Net.PathQuery
import TenantGateway.Proofs.Service.Routing

/-! What a backend is asked for. Behind a service's address that is a path and no more, the backend
gets the request's own path and query. A query in the address takes them both in, and a fragment makes
them vanish, and the check of the settings lets either pass. -/
namespace TenantGateway
open Text (joinAt dropTailWhile)

namespace Net.PlainAddress

variable {p : PlainAddress} {path : List Char} {query fragment : Option (List Char)} {u : Uri}

/-- What stands behind the authority, part by part. -/
structure Parts (p : PlainAddress) (path : List Char) (query fragment : Option (List Char)) : Prop where
  tail : p.tail = joinParts path query fragment
  unmarked : '?' ∉ path
  unsigned : '#' ∉ joinAt '?' path query

private theorem exists_parts (p : PlainAddress) :
    ∃ path query fragment, p.Parts path query fragment := by
  obtain ⟨path, query, fragment, htail, hpath, hbody⟩ := exists_joinParts p.tail
  exact ⟨path, query, fragment, htail, hpath, hbody⟩

/-- Question marks and number signs come behind the authority. -/
theorem mem_toList_iff {c : Char} (hc : c = '?' ∨ c = '#') : c ∈ p.toList ↔ c ∈ p.tail := by
  have hfront : c ∉ p.front := by
    intro hmem
    have hlower := List.mem_map_of_mem (f := Char.toLower) hmem
    rw [p.isFront] at hlower
    rcases hc with rfl | rfl
    all_goals exact absurd hlower (by decide)
  have hauthority : c ∉ p.authority := by
    intro hmem
    have hinside := List.all_eq_true.mp p.all_authority c hmem
    rcases hc with rfl | rfl
    all_goals exact absurd hinside (by decide)
  rw [toList, List.mem_append, List.mem_append]
  exact ⟨fun h => h.resolve_left (not_or.mpr ⟨hfront, hauthority⟩), .inr⟩

private theorem Parts.sign_mem_iff (h : p.Parts path query fragment) :
    '#' ∈ p.toList ↔ fragment.isSome := by
  rw [mem_toList_iff (.inr rfl), h.tail, joinParts, Text.mem_joinAt]
  cases fragment with
  | none => simp [h.unsigned]
  | some cs => simp

private theorem Parts.mark_mem_iff (h : p.Parts path query none) :
    '?' ∈ p.toList ↔ query.isSome := by
  rw [mem_toList_iff (.inl rfl), h.tail, joinParts, Text.mem_joinAt, Text.mem_joinAt]
  cases query with
  | none => simp [h.unmarked]
  | some cs => simp

private theorem eq_uri_of_joinParts (hpath : '?' ∉ path) (hbody : '#' ∉ joinAt '?' path query)
    (h : (splitPathQuery (joinParts path query fragment)).map p.uri = .ok u) :
    u = p.uri (String.ofList path, query.map String.ofList) := by
  cases hparts : splitPathQuery (joinParts path query fragment) with
  | error e =>
    rw [hparts] at h
    cases h
  | ok parts =>
    rw [hparts, splitPathQuery_joinParts hpath hbody hparts] at h
    cases h
    rfl

private theorem path_uri (h : path ≠ []) (query : Option String) :
    (p.uri (String.ofList path, query)).path = String.ofList path :=
  if_neg (by simpa using h)

end Net.PlainAddress

namespace Route

variable {services : List Service} {target home u : Net.Uri} {r : Route}

/-- A route's path with the query of its request. -/
structure Carries (r : Route) (target : Net.Uri) (path : List Char) : Prop where
  text : r.backendPath.toList = joinAt '?' path (target.query.map String.toList)
  slashed : path.head? = some '/'
  unmarked : '?' ∉ path
  unsigned : '#' ∉ r.backendPath.toList

/-- What a request can have for a path and query is handed on with its query. -/
theorem exists_carries {text : String} (htarget : Net.Uri.parse text = .ok target)
    (hpath : target.routingPath.toList.head? = some '/')
    (hr : resolve? services target.routingPath = some r) : ∃ path, r.Carries target path := by
  rcases Net.Uri.routingPath_cases htarget with hroot | hstar | ⟨hparts, hmark, hsign⟩
  · rw [hroot] at hr
    cases (rfl : resolve? services "/" = none).symm.trans hr
  · rw [hstar] at hpath
    exact absurd hpath (by decide)
  obtain ⟨c, hc⟩ := Cut.exists_of_head hpath
  obtain ⟨-, s, -, rfl⟩ := (resolve?_eq_some_iff hc).mp hr
  have hquery : c.query = target.query.map String.toList :=
    ((Text.joinAt_inj c.mark_not_mem_path hmark).mp (hc.symm.trans hparts)).2
  have hroute : (c.route s).backendPath.toList = joinAt '?' (c.backendPath s) c.query :=
    String.toList_ofList
  refine ⟨c.backendPath s, hquery ▸ hroute, ?_, c.mark_not_mem_backendPath s, ?_⟩
  · rw [Cut.backendPath]
    split <;> rfl
  · rw [hroute]
    exact fun hmem => hsign (hc ▸ c.mem_toList_of_mem_route hmem)

/-- A text without the slashes at its end. -/
def withoutSlashes (s : String) : String := String.ofList (dropTailWhile (· == '/') s.toList)

/-- The address is the service's own path followed by the request's, with the request's query. -/
structure Composed (home target : Net.Uri) (r : Route) (u : Net.Uri) : Prop where
  path : u.path = withoutSlashes home.path ++ pathPart r.backendPath
  query : u.query = target.query

/-- Where the address of a backend leads, by what its service's own address holds. -/
structure Landing (home target : Net.Uri) (r : Route) (u : Net.Uri) : Prop where
  plain : '?' ∉ r.service.url.toList → '#' ∉ r.service.url.toList → Composed home target r u
  /-- A query takes in all that follows. -/
  captured : '?' ∈ r.service.url.toList → '#' ∉ r.service.url.toList →
    u.path = home.path ∧ ¬Composed home target r u ∧
      ∃ own, home.query = some own ∧ u.query = some (withoutSlashes own ++ r.backendPath)
  /-- A fragment hides it. -/
  hidden : '#' ∈ r.service.url.toList → u = home

section Cases

variable {p : Net.PlainAddress} {path bpath q f : List Char} {query : Option (List Char)}

-- The identifier that a service's address becomes when a route's path is put behind it.
private def glue (p : Net.PlainAddress) (r : Route) : Except Net.UriError Net.Uri :=
  (Net.splitPathQuery (dropTailWhile (· == '/') p.tail ++ r.backendPath.toList)).map p.uri

private theorem withoutSlashes_path (query : Option String) :
    withoutSlashes (p.uri (String.ofList path, query)).path =
      String.ofList (dropTailWhile (· == '/') path) := by
  cases path with
  | nil =>
    have hroot : (p.uri (String.ofList [], query)).path = "/" := by
      simp [Net.PlainAddress.uri]
    rw [hroot]
    decide
  | cons c cs =>
    rw [Net.PlainAddress.path_uri (List.cons_ne_nil c cs), withoutSlashes, String.toList_ofList]

private theorem composed_of_plain (hp : p.Parts path none none) (hr : r.Carries target bpath)
    (hu : glue p r = .ok u) :
    Composed (p.uri (String.ofList path, none)) target r u := by
  have hkept : dropTailWhile (· == '/') path <+: path := Text.dropTailWhile_prefix _ path
  have htext : dropTailWhile (· == '/') p.tail ++ r.backendPath.toList =
      Net.joinParts (dropTailWhile (· == '/') path ++ bpath) (target.query.map String.toList) none := by
    rw [hp.tail, hr.text]
    simp [Net.joinParts, joinAt]
  have hpath : '?' ∉ dropTailWhile (· == '/') path ++ bpath := by
    rw [List.mem_append, not_or]
    exact ⟨fun h => hp.unmarked (hkept.subset h), hr.unmarked⟩
  have hbody : '#' ∉ joinAt '?' (dropTailWhile (· == '/') path ++ bpath)
      (target.query.map String.toList) := by
    rw [joinAt, List.append_assoc, List.mem_append, not_or]
    have hfree := hr.unsigned
    rw [hr.text] at hfree
    exact ⟨fun h => hp.unsigned (Text.mem_joinAt.mpr (.inl (hkept.subset h))), hfree⟩
  rw [glue, htext] at hu
  rw [Net.PlainAddress.eq_uri_of_joinParts hpath hbody hu]
  obtain ⟨rest, rfl⟩ := List.head?_eq_some_iff.mp hr.slashed
  constructor
  · have hsome : dropTailWhile (· == '/') path ++ '/' :: rest ≠ [] :=
      List.append_ne_nil_of_right_ne_nil _ (List.cons_ne_nil _ _)
    rw [Net.PlainAddress.path_uri hsome, withoutSlashes_path, pathPart, hr.text,
      Text.takeWhile_joinAt hr.unmarked, String.ofList_append]
  · change (target.query.map String.toList).map String.ofList = target.query
    simp [Function.comp_def]

private theorem captured_of_query (hp : p.Parts path (some q) none) (hr : r.Carries target bpath)
    (hu : glue p r = .ok u) :
    u = p.uri (String.ofList path, some (withoutSlashes (String.ofList q) ++ r.backendPath)) := by
  have htext : dropTailWhile (· == '/') p.tail ++ r.backendPath.toList =
      Net.joinParts path (some (dropTailWhile (· == '/') q ++ r.backendPath.toList)) none := by
    rw [hp.tail, Net.joinParts, joinAt, Option.elim_none, List.append_nil,
      Text.dropTailWhile_joinAt_some (by decide)]
    simp [Net.joinParts, joinAt]
  have hbody : '#' ∉ joinAt '?' path (some (dropTailWhile (· == '/') q ++ r.backendPath.toList)) := by
    have hkept : dropTailWhile (· == '/') q <+: q := Text.dropTailWhile_prefix _ q
    have hfree := hp.unsigned
    simp only [Text.mem_joinAt, not_or, Option.mem_some_iff, exists_eq_left', List.mem_append]
      at hfree ⊢
    exact ⟨hfree.1, hfree.2.1, fun h => hfree.2.2 (hkept.subset h), hr.unsigned⟩
  rw [glue, htext] at hu
  rw [Net.PlainAddress.eq_uri_of_joinParts hp.unmarked hbody hu, Option.map_some, withoutSlashes,
    String.ofList_append, String.ofList_toList, String.toList_ofList]

private theorem hidden_of_fragment (hp : p.Parts path query (some f)) (hu : glue p r = .ok u) :
    u = p.uri (String.ofList path, query.map String.ofList) := by
  have htext : dropTailWhile (· == '/') p.tail ++ r.backendPath.toList =
      Net.joinParts path query (some (dropTailWhile (· == '/') f ++ r.backendPath.toList)) := by
    rw [hp.tail, Net.joinParts, Text.dropTailWhile_joinAt_some (by decide)]
    simp [Net.joinParts, joinAt]
  rw [glue, htext] at hu
  exact Net.PlainAddress.eq_uri_of_joinParts hp.unmarked hp.unsigned hu

end Cases

/-- A query that has taken in a route's path is no request's own. -/
theorem not_composed_of_captured {path : List Char} {own : String} (hr : r.Carries target path)
    (hu : u.query = some (own ++ r.backendPath)) : ¬Composed home target r u := by
  rintro ⟨-, hquery⟩
  rw [hu] at hquery
  have hlength := congrArg (·.elim 0 String.length) hquery
  have htext := congrArg List.length hr.text
  rw [← hquery] at htext
  simp only [Option.elim_some, String.length_append, Option.map_some, joinAt, List.length_append,
    List.length_cons, String.length_toList, String.toList_append] at hlength htext
  omega

private theorem landing_of_backendUri {path : List Char}
    (hhome : Net.Uri.parse r.service.url = .ok home)
    (hplain : home.scheme = some "http") (hr : r.Carries target path) (hu : r.backendUri = .ok u) :
    Landing home target r u := by
  have hpath : r.backendPath.toList.head? = some '/' := by
    obtain ⟨rest, hrest⟩ := List.head?_eq_some_iff.mp hr.slashed
    rw [hr.text, hrest]
    rfl
  obtain ⟨p, hurl, hown, hglued⟩ := exists_plainAddress hhome hplain hpath hu
  obtain ⟨own, query, fragment, hparts⟩ := p.exists_parts
  rw [hparts.tail] at hown
  have heq := Net.PlainAddress.eq_uri_of_joinParts hparts.unmarked hparts.unsigned hown
  have hsign := hparts.sign_mem_iff
  rw [← hurl] at hsign
  cases fragment with
  | some f =>
    have hmem : '#' ∈ r.service.url.toList := hsign.mpr rfl
    exact ⟨fun _ h => absurd hmem h, fun _ h => absurd hmem h, fun _ =>
      (hidden_of_fragment hparts hglued).trans heq.symm⟩
  | none =>
    have hfree : '#' ∉ r.service.url.toList := fun h => nomatch hsign.mp h
    have hmark := hparts.mark_mem_iff
    rw [← hurl] at hmark
    cases query with
    | none =>
      have hunmarked : '?' ∉ r.service.url.toList := fun h => nomatch hmark.mp h
      rw [heq]
      exact ⟨fun _ _ => composed_of_plain hparts hr hglued, fun h => absurd h hunmarked,
        fun h => absurd h hfree⟩
    | some q =>
      have hmem : '?' ∈ r.service.url.toList := hmark.mpr rfl
      have hu := captured_of_query hparts hr hglued
      refine ⟨fun h => absurd hmem h, fun _ _ => ⟨?_, ?_, String.ofList q, ?_, ?_⟩,
        fun h => absurd h hfree⟩
      · rw [hu, heq]
        rfl
      · exact not_composed_of_captured hr (by rw [hu]; rfl)
      · rw [heq]
        rfl
      · rw [hu]
        rfl

/-- What a backend is asked for is settled by its service's address, for every request that a client
can make: with a path and no more it is that path and then the request's, with a query it is never
that, and with a fragment it is the address itself. -/
theorem landing_of_validate (s : Settings) (hvalid : s.validate = .ok ()) (text : String)
    (target : Net.Uri) (htarget : Net.Uri.parse text = .ok target)
    (hpath : target.routingPath.toList.head? = some '/') (r : Route)
    (hr : resolve? s.services target.routingPath = some r) (u : Net.Uri) (hu : r.backendUri = .ok u) :
    ∃ home, Net.Uri.parse r.service.url = .ok home ∧ Landing home target r u := by
  obtain ⟨hservice, -⟩ := resolve?_eq_some hr hpath
  obtain ⟨home, hhome, hplain⟩ :=
    Settings.plain_of_checkServices (Settings.checkServices_of_validate hvalid) hservice
  obtain ⟨path, hcarries⟩ := exists_carries htarget hpath hr
  exact ⟨home, hhome, landing_of_backendUri hhome hplain hcarries hu⟩

-- Settings with one service at any address.
private def billingAt (url : String) : Settings :=
  { listen := ⟨.v4 [127, 0, 0, 1], 8080, 0⟩, services := [⟨"billing", url, true⟩] }

/-- Slashes at the end of an address do not pile up, and those of the request stay. -/
theorem landing_of_validate_slashes :
    (billingAt "http://[::1]:80/api//").validate = .ok () ∧ ∃ target r u,
      Net.Uri.parse "http://any/billing//a/?y=?//" = .ok target ∧
      target.routingPath.toList.head? = some '/' ∧
      resolve? (billingAt "http://[::1]:80/api//").services target.routingPath = some r ∧
      r.backendUri = .ok u ∧ u.path = "/api//a/" ∧ u.query = target.query := by
  have hvalid : (billingAt "http://[::1]:80/api//").validate = .ok () := by rfl
  have htarget : Net.Uri.parse "http://any/billing//a/?y=?//" =
      .ok ⟨some "http", some "any", "/billing//a/", some "y=?//"⟩ := by rfl
  have hr : resolve? (billingAt "http://[::1]:80/api//").services "/billing//a/?y=?//" =
      some ⟨⟨"billing", "http://[::1]:80/api//", true⟩, "//a/?y=?//"⟩ := by rfl
  have hu : Route.backendUri ⟨⟨"billing", "http://[::1]:80/api//", true⟩, "//a/?y=?//"⟩ =
      .ok ⟨some "http", some "[::1]:80", "/api//a/", some "y=?//"⟩ := by rfl
  obtain ⟨home, -, hlanding⟩ :=
    landing_of_validate _ hvalid _ _ htarget (by decide) _ hr _ hu
  exact ⟨hvalid, _, _, _, htarget, by decide, hr, hu, rfl,
    (hlanding.plain (by decide) (by decide)).query⟩

/-- An address with a query is found valid, and the request ends up in the query. -/
theorem not_composed_of_validate :
    ¬∀ s : Settings, s.validate = .ok () → ∀ text target, Net.Uri.parse text = .ok target →
      target.routingPath.toList.head? = some '/' →
        ∀ r, resolve? s.services target.routingPath = some r → ∀ u, r.backendUri = .ok u →
          ∃ home, Net.Uri.parse r.service.url = .ok home ∧ Composed home target r u := by
  intro h
  have hvalid : (billingAt "http://h:1/api?x=1").validate = .ok () := by rfl
  have htarget : Net.Uri.parse "/billing/a?y=2" =
      .ok ⟨none, none, "/billing/a", some "y=2"⟩ := by rfl
  have hr : resolve? (billingAt "http://h:1/api?x=1").services "/billing/a?y=2" =
      some ⟨⟨"billing", "http://h:1/api?x=1", true⟩, "/a?y=2"⟩ := by rfl
  have hu : Route.backendUri ⟨⟨"billing", "http://h:1/api?x=1", true⟩, "/a?y=2"⟩ =
      .ok ⟨some "http", some "h:1", "/api", some "x=1/a?y=2"⟩ := by rfl
  obtain ⟨home, -, hcomposed⟩ := h _ hvalid _ _ htarget (by decide) _ hr _ hu
  exact absurd hcomposed.query (by decide)

end Route

end TenantGateway
