import TenantGateway.Proofs.Text.Split
import TenantGateway.Settings.Validity

/-! Which service a request finds. The first segment of the path names it, in whatever order the
services are listed, and the route keeps everything of the request but that segment. -/
namespace TenantGateway

/-- What the check asks of a service by itself. -/
structure Service.Sound (s : Service) : Prop where
  named : s.name ≠ ""
  undivided : '/' ∉ s.name.toList
  plain : ∃ home, Net.Uri.parse s.url = .ok home ∧ home.scheme = some "http"

namespace Settings

variable {seen : List String} {services : List Service} {s : Service}

private theorem checkServices_cons (h : checkServices seen (s :: services) = .ok ()) :
    s.Sound ∧ s.name ∉ seen ∧ checkServices (s.name :: seen) services = .ok () := by
  rw [checkServices] at h
  split at h
  · cases h
  next hname =>
  split at h
  · cases h
  next hfresh =>
  split at h
  · cases h
  next home hhome =>
  split at h
  next hplain =>
    rw [not_or, List.contains_iff_mem] at hname
    refine ⟨⟨?_, hname.2, home, hhome, hplain.1⟩, hfresh, h⟩
    intro hempty
    rw [hempty] at hname
    exact hname.1 rfl
  next => cases h

private theorem sound_of_checkServices (h : checkServices seen services = .ok ())
    (hs : s ∈ services) :
    s.Sound := by
  induction services generalizing seen with
  | nil => cases hs
  | cons t services ih =>
    obtain ⟨hsound, -, hrest⟩ := checkServices_cons h
    rcases List.mem_cons.mp hs with rfl | hs
    · exact hsound
    · exact ih hrest hs

/-- Every service that passes the check has an address over plain HTTP. -/
theorem plain_of_checkServices (h : checkServices seen services = .ok ()) (hs : s ∈ services) :
    ∃ home, Net.Uri.parse s.url = .ok home ∧ home.scheme = some "http" :=
  (sound_of_checkServices h hs).plain

private theorem fresh_of_checkServices (h : checkServices seen services = .ok ()) :
    (services.map (·.name)).Nodup ∧ ∀ name ∈ services.map (·.name), name ∉ seen := by
  induction services generalizing seen with
  | nil => exact ⟨List.nodup_nil, nofun⟩
  | cons t services ih =>
    obtain ⟨-, hfresh, hrest⟩ := checkServices_cons h
    obtain ⟨hnodup, hothers⟩ := ih hrest
    rw [List.map_cons, List.nodup_cons, List.forall_mem_cons]
    refine ⟨⟨fun ht => hothers _ ht List.mem_cons_self, hnodup⟩, hfresh, ?_⟩
    exact fun name hname hseen => hothers name hname (List.mem_cons_of_mem _ hseen)

/-- No two services that pass the check have one name. -/
theorem nodup_of_checkServices (h : checkServices seen services = .ok ()) :
    (services.map (·.name)).Nodup :=
  (fresh_of_checkServices h).1

/-- Settings that are found valid have had their services checked. -/
theorem checkServices_of_validate {s : Settings} (h : s.validate = .ok ()) :
    checkServices [] s.services = .ok () := by
  rw [validate] at h
  split at h
  · cases h
  · cases hcheck : checkServices [] s.services with
    | ok => rfl
    | error e =>
      rw [hcheck] at h
      cases h

end Settings

namespace Service

variable {services : List Service} {s : Service} {name : String}

/-- Among services with names of their own, the first of a name is the only one. -/
theorem find?_eq_some_iff (hnodup : (services.map (·.name)).Nodup) :
    services.find? (·.name == name) = some s ↔ s ∈ services ∧ s.name = name := by
  induction services with
  | nil => simp
  | cons t services ih =>
    rw [List.map_cons, List.nodup_cons] at hnodup
    obtain ⟨ht, hnodup⟩ := hnodup
    by_cases hname : t.name = name
    · have hfound : (t.name == name) = true := beq_iff_eq.mpr hname
      simp only [List.find?_cons, hfound, Option.some.injEq, List.mem_cons]
      constructor
      · rintro rfl
        exact ⟨.inl rfl, hname⟩
      · rintro ⟨rfl | hs, hsame⟩
        · rfl
        · rw [hname, ← hsame] at ht
          exact absurd (List.mem_map_of_mem hs) ht
    · have hother : (t.name == name) = false := beq_eq_false_iff_ne.mpr hname
      simp only [List.find?_cons, hother, ih hnodup, List.mem_cons]
      constructor
      · exact fun ⟨hs, hsame⟩ => ⟨.inr hs, hsame⟩
      · rintro ⟨rfl | hs, hsame⟩
        · exact absurd hsame hname
        · exact ⟨hs, hsame⟩

end Service

namespace Route

/-- A path and query cut where routes are cut: at the slash behind the first segment, and at the
query. -/
@[ext]
structure Cut where
  segment : List Char
  rest : Option (List Char)
  query : Option (List Char)
  undivided : '/' ∉ segment
  unmarked : '?' ∉ Text.joinAt '/' segment rest

namespace Cut

def path (c : Cut) : List Char := '/' :: Text.joinAt '/' c.segment c.rest

def toList (c : Cut) : List Char := Text.joinAt '?' c.path c.query

/-- The path that a service's backend gets. -/
def backendPath (c : Cut) (s : Service) : List Char :=
  if s.stripSegment then '/' :: c.rest.getD [] else c.path

def route (c : Cut) (s : Service) : Route :=
  { service := s, backendPath := String.ofList (Text.joinAt '?' (c.backendPath s) c.query) }

variable (c : Cut)

/-- A path holds no question mark. -/
theorem mark_not_mem_path : '?' ∉ c.path := by
  rw [path, List.mem_cons, not_or]
  exact ⟨by decide, c.unmarked⟩

private theorem mark_not_mem_segment : '?' ∉ c.segment := fun h =>
  c.unmarked (Text.mem_joinAt.mpr (.inl h))

/-- Neither does what a backend gets of it. -/
theorem mark_not_mem_backendPath (s : Service) : '?' ∉ c.backendPath s := by
  rw [backendPath]
  split
  · rw [List.mem_cons, not_or]
    refine ⟨by decide, ?_⟩
    cases hrest : c.rest with
    | none => exact List.not_mem_nil
    | some cs =>
      exact fun h => c.unmarked (Text.mem_joinAt.mpr (.inr ⟨cs, hrest, .inr h⟩))
  · exact c.mark_not_mem_path

/-- What a backend gets was in the request's target, character by character. -/
theorem mem_toList_of_mem_route {s : Service} {d : Char}
    (h : d ∈ Text.joinAt '?' (c.backendPath s) c.query) : d ∈ c.toList := by
  rw [toList, Text.mem_joinAt] at *
  refine h.imp_left fun hd => ?_
  rw [backendPath] at hd
  split at hd
  · rw [path, List.mem_cons, Text.mem_joinAt]
    refine (List.mem_cons.mp hd).imp_right fun hrest => .inr ?_
    cases hc : c.rest with
    | none =>
      rw [hc] at hrest
      exact absurd hrest List.not_mem_nil
    | some cs =>
      rw [hc] at hrest
      exact ⟨cs, rfl, .inr hrest⟩
  · exact hd

private theorem toList_inj {c d : Cut} : c.toList = d.toList ↔ c = d := by
  constructor
  · intro h
    obtain ⟨hpath, hquery⟩ := (Text.joinAt_inj c.mark_not_mem_path d.mark_not_mem_path).mp h
    obtain ⟨hsegment, hrest⟩ :=
      (Text.joinAt_inj c.undivided d.undivided).mp (List.cons.inj hpath).2
    exact Cut.ext hsegment hrest hquery
  · rintro rfl
    rfl

/-- Every path that begins with a slash can be cut. -/
theorem exists_of_head {p : List Char} (h : p.head? = some '/') : ∃ c : Cut, p = c.toList := by
  obtain ⟨cs, rfl⟩ := List.head?_eq_some_iff.mp h
  obtain ⟨path, query, rfl, hpath⟩ := Text.exists_joinAt '?' cs
  obtain ⟨segment, rest, rfl, hsegment⟩ := Text.exists_joinAt '/' path
  exact ⟨⟨segment, rest, query, hsegment, hpath⟩, rfl⟩

end Cut

variable {services : List Service} {p : String} {c : Cut} {r : Route}

private theorem resolve?_eq (hp : p.toList = c.toList) (services : List Service) :
    resolve? services p =
      if c.segment = [] then none
      else (services.find? (·.name == String.ofList c.segment)).map c.route := by
  have hquery : Text.splitAtFirst '?' p.toList = (c.path, c.query) := by
    rw [hp, Cut.toList, Text.splitAtFirst_joinAt c.mark_not_mem_path]
  have hrest : Text.splitAtFirst '/' (Text.joinAt '/' c.segment c.rest) = (c.segment, c.rest) :=
    Text.splitAtFirst_joinAt c.undivided c.rest
  simp only [resolve?, hquery, Cut.path, hrest, List.isEmpty_iff]
  split
  · rfl
  · cases services.find? (·.name == String.ofList c.segment) <;> rfl

/-- A request is routed to the service that its first segment names. -/
theorem resolve?_eq_some_iff (hp : p.toList = c.toList) :
    resolve? services p = some r ↔ c.segment ≠ [] ∧
      ∃ s, services.find? (·.name == String.ofList c.segment) = some s ∧ c.route s = r := by
  rw [resolve?_eq hp]
  split
  next hempty => exact ⟨nofun, fun h => absurd hempty h.1⟩
  next hsegment =>
    rw [Option.map_eq_some_iff]
    exact ⟨fun h => ⟨hsegment, h⟩, And.right⟩

/-- The text between the slash that a path begins with and the next slash, question mark or end. -/
def firstSegment (pathAndQuery : String) : String :=
  String.ofList ((pathAndQuery.toList.drop 1).takeWhile fun c => c != '/' && c != '?')

/-- What stands in front of the query. -/
def pathPart (pathAndQuery : String) : String :=
  String.ofList (pathAndQuery.toList.takeWhile (· != '?'))

private theorem firstSegment_eq (hp : p.toList = c.toList) :
    firstSegment p = String.ofList c.segment := by
  have hsegment : ∀ d ∈ c.segment, (d != '/' && d != '?') = true := by
    intro d hd
    rw [Bool.and_eq_true, bne_iff_ne, bne_iff_ne]
    exact ⟨fun h => c.undivided (h ▸ hd), fun h => c.mark_not_mem_segment (h ▸ hd)⟩
  rw [firstSegment, hp, Cut.toList, Cut.path, Text.joinAt, Text.joinAt, List.cons_append,
    List.drop_one, List.tail_cons, List.append_assoc, List.takeWhile_append_of_pos hsegment]
  cases c.rest with
  | some cs => exact congrArg String.ofList (List.append_nil _)
  | none => cases c.query <;> exact congrArg String.ofList (List.append_nil _)

private theorem pathPart_eq (hp : p.toList = c.toList) : pathPart p = String.ofList c.path := by
  rw [pathPart, hp, Cut.toList, Text.takeWhile_joinAt c.mark_not_mem_path]

/-- Two requests for a service by itself, the second with a slash behind the service's name. -/
def AddsSlash (name p q : String) : Prop :=
  ∃ query, (∀ c ∈ query.toList.head?, c = '?') ∧ p = "/" ++ name ++ query ∧
    q = "/" ++ name ++ "/" ++ query

namespace Cut

/-- The first segment by itself, with or without a slash behind it. -/
def bare (c : Cut) (slash : Bool) (query : Option (List Char)) : Cut where
  segment := c.segment
  rest := if slash then some [] else none
  query := query
  undivided := c.undivided
  unmarked := by
    rw [Text.mem_joinAt, not_or]
    refine ⟨c.mark_not_mem_segment, ?_⟩
    cases slash <;> simp

private theorem addsSlash_iff (c : Cut) (p q : String) :
    AddsSlash (String.ofList c.segment) p q ↔
      ∃ query, p.toList = (c.bare false query).toList ∧ q.toList = (c.bare true query).toList := by
  constructor
  · rintro ⟨query, hquery, rfl, rfl⟩
    cases hmarks : query.toList with
    | nil => exact ⟨none, by simp [hmarks, toList, path, bare, Text.joinAt]⟩
    | cons d marks =>
      rw [hmarks] at hquery
      cases hquery d rfl
      exact ⟨some marks, by simp [hmarks, toList, path, bare, Text.joinAt]⟩
  · rintro ⟨query, hp, hq⟩
    refine ⟨String.ofList (query.elim [] ('?' :: ·)), ?_, ?_, ?_⟩
    · cases query <;> simp
    · rw [← String.toList_inj, hp]
      simp [toList, path, bare, Text.joinAt]
    · rw [← String.toList_inj, hq]
      simp [toList, path, bare, Text.joinAt]

/-- Cuts at one segment lead a service alike only if they differ in the slash behind it, and it is
stripped. -/
theorem route_eq_iff {c d : Cut} (hsegment : c.segment = d.segment) (s : Service) :
    c.route s = d.route s ↔ c = d ∨ s.stripSegment = true ∧ ∃ query slash,
      c = c.bare slash query ∧ d = c.bare (!slash) query := by
  have hroute : c.route s = d.route s ↔ c.backendPath s = d.backendPath s ∧ c.query = d.query := by
    rw [route, route, Route.mk.injEq, String.ofList_inj,
      Text.joinAt_inj (c.mark_not_mem_backendPath s) (d.mark_not_mem_backendPath s)]
    exact ⟨And.right, fun h => ⟨rfl, h⟩⟩
  rw [hroute, backendPath, backendPath]
  cases s.stripSegment with
  | false =>
    simp only [Bool.false_eq_true, if_false, false_and, or_false]
    rw [← toList_inj, toList, toList,
      Text.joinAt_inj c.mark_not_mem_path d.mark_not_mem_path]
  | true =>
    simp only [if_true, List.cons.injEq, true_and]
    constructor
    · rintro ⟨hrest, hquery⟩
      cases hc : c.rest with
      | none =>
        cases hd : d.rest with
        | none => exact .inl (Cut.ext hsegment (hc.trans hd.symm) hquery)
        | some cs =>
          rw [hc, hd] at hrest
          cases (hrest : [] = cs)
          exact .inr ⟨c.query, false, Cut.ext rfl hc rfl, Cut.ext hsegment.symm hd hquery.symm⟩
      | some bs =>
        cases hd : d.rest with
        | none =>
          rw [hc, hd] at hrest
          cases (hrest : bs = [])
          exact .inr ⟨c.query, true, Cut.ext rfl hc rfl, Cut.ext hsegment.symm hd hquery.symm⟩
        | some cs =>
          rw [hc, hd] at hrest
          exact .inl (Cut.ext hsegment (by rw [hc, hd]; exact congrArg some hrest) hquery)
    · rintro (rfl | ⟨query, slash, hc, hd⟩)
      · exact ⟨rfl, rfl⟩
      · rw [hc, hd]
        cases slash <;> exact ⟨rfl, rfl⟩

end Cut

/-- Nothing but the service's own segment is lost on the way to its backend, and that segment alone
decides which service it is. -/
structure Lossless (services : List Service) (p : String) : Prop where
  found : (resolve? services p).isSome ↔
    firstSegment p ≠ "" ∧ ∃ s ∈ services, s.name = firstSegment p
  chosen : ∀ s ∈ services, s.name = firstSegment p → firstSegment p ≠ "" →
    ∀ others, others.Perm services → ∃ r, resolve? others p = some r ∧ r.service = s
  whole : ∀ r, resolve? services p = some r → r.service.stripSegment = false → r.backendPath = p
  stripped : ∀ r, resolve? services p = some r → r.service.stripSegment = true →
    ∃ more, p = "/" ++ r.service.name ++ more ∧
      r.backendPath = if pathPart p = "/" ++ r.service.name then "/" ++ more else more
  apart : ∀ q r, q.toList.head? = some '/' → resolve? services p = some r →
    (resolve? services q = some r ↔ p = q ∨ r.service.stripSegment = true ∧
      (AddsSlash r.service.name p q ∨ AddsSlash r.service.name q p))

private theorem name_of_find? {s : Service} {segment : List Char}
    (h : services.find? (·.name == String.ofList segment) = some s) :
    s.name = String.ofList segment := by
  have hs := List.find?_some h
  exact beq_iff_eq.mp hs

private theorem found_iff (hp : p.toList = c.toList) : (resolve? services p).isSome ↔
    firstSegment p ≠ "" ∧ ∃ s ∈ services, s.name = firstSegment p := by
  have hempty : firstSegment p ≠ "" ↔ c.segment ≠ [] := by
    rw [firstSegment_eq hp, ne_eq, ne_eq, String.ofList_eq_empty_iff]
  rw [hempty, firstSegment_eq hp, resolve?_eq hp]
  split
  next h => simp [h]
  next h => simp [h]

private theorem chosen_of_find? (hnodup : (services.map (·.name)).Nodup) (hp : p.toList = c.toList)
    {s : Service} (hs : s ∈ services) (hname : s.name = firstSegment p) (hsome : firstSegment p ≠ "") :
    ∃ r, resolve? services p = some r ∧ r.service = s := by
  rw [firstSegment_eq hp] at hname hsome
  refine ⟨c.route s, (resolve?_eq_some_iff hp).mpr ⟨?_, s, ?_, rfl⟩, rfl⟩
  · rwa [ne_eq, String.ofList_eq_empty_iff] at hsome
  · exact (Service.find?_eq_some_iff hnodup).mpr ⟨hs, hname⟩

private theorem stripped_of_resolve? (hp : p.toList = c.toList) (hr : resolve? services p = some r)
    (hstrip : r.service.stripSegment = true) :
    ∃ more, p = "/" ++ r.service.name ++ more ∧
      r.backendPath = if pathPart p = "/" ++ r.service.name then "/" ++ more else more := by
  obtain ⟨-, s, hfind, rfl⟩ := (resolve?_eq_some_iff hp).mp hr
  have hpath : pathPart p = "/" ++ s.name ↔ c.rest = none := by
    rw [pathPart_eq hp, name_of_find? hfind, ← String.toList_inj, String.toList_append,
      String.toList_ofList, String.toList_ofList, Cut.path, Text.joinAt]
    cases c.rest <;> simp
  change s.stripSegment = true at hstrip
  change ∃ more, p = "/" ++ s.name ++ more ∧ (c.route s).backendPath =
    if pathPart p = "/" ++ s.name then "/" ++ more else more
  simp only [hpath, Cut.route, Cut.backendPath, hstrip, if_true]
  rw [name_of_find? hfind]
  refine ⟨String.ofList (c.rest.elim [] ('/' :: ·) ++ c.query.elim [] ('?' :: ·)), ?_, ?_⟩
  · rw [← String.toList_inj, hp]
    simp [Cut.toList, Cut.path, Text.joinAt]
  · rw [← String.toList_inj]
    cases c.rest <;> simp [Text.joinAt]

private theorem apart_iff (hp : p.toList = c.toList) {q : String} (hq : q.toList.head? = some '/')
    (hr : resolve? services p = some r) :
    resolve? services q = some r ↔ p = q ∨ r.service.stripSegment = true ∧
      (AddsSlash r.service.name p q ∨ AddsSlash r.service.name q p) := by
  obtain ⟨hsegment, s, hfind, rfl⟩ := (resolve?_eq_some_iff hp).mp hr
  obtain ⟨d, hd⟩ := Cut.exists_of_head hq
  have hsame : p = q ↔ c = d := by
    rw [← String.toList_inj, hp, hd, Cut.toList_inj]
  have hslash : (AddsSlash s.name p q ∨ AddsSlash s.name q p) ↔
      ∃ query slash, c = c.bare slash query ∧ d = c.bare (!slash) query := by
    rw [name_of_find? hfind, c.addsSlash_iff, c.addsSlash_iff, hp, hd]
    simp only [Cut.toList_inj]
    constructor
    · rintro (⟨query, hc, hd⟩ | ⟨query, hd, hc⟩)
      · exact ⟨query, false, hc, hd⟩
      · exact ⟨query, true, hc, hd⟩
    · rintro ⟨query, slash, hc, hd⟩
      cases slash with
      | false => exact .inl ⟨query, hc, hd⟩
      | true => exact .inr ⟨query, hd, hc⟩
  change _ ↔ p = q ∨ s.stripSegment = true ∧ (AddsSlash s.name p q ∨ AddsSlash s.name q p)
  rw [hsame, hslash, resolve?_eq_some_iff hd]
  constructor
  · rintro ⟨-, t, ht, hroute⟩
    have hts : t = s := congrArg Route.service hroute
    subst hts
    have hsegments : c.segment = d.segment :=
      String.ofList_inj.mp ((name_of_find? hfind).symm.trans (name_of_find? ht))
    exact (Cut.route_eq_iff hsegments t).mp hroute.symm
  · intro halike
    have hsegments : c.segment = d.segment := by
      rcases halike with rfl | ⟨-, query, slash, -, hd⟩
      · rfl
      · rw [hd]
        rfl
    rw [← hsegments]
    exact ⟨hsegment, s, hfind, ((Cut.route_eq_iff hsegments s).mpr halike).symm⟩

/-- Among services with names of their own, every path that begins with a slash is resolved without
loss. -/
theorem lossless_resolve (services : List Service) (hnodup : (services.map (·.name)).Nodup)
    (p : String) (hpath : p.toList.head? = some '/') : Lossless services p := by
  obtain ⟨c, hp⟩ := Cut.exists_of_head hpath
  constructor
  case found => exact found_iff hp
  case chosen =>
    intro s hs hname hsome others hperm
    have hothers := (hperm.map (·.name)).nodup_iff.mpr hnodup
    exact chosen_of_find? hothers hp (hperm.mem_iff.mpr hs) hname hsome
  case whole =>
    intro r hr hwhole
    obtain ⟨-, s, -, rfl⟩ := (resolve?_eq_some_iff hp).mp hr
    change s.stripSegment = false at hwhole
    rw [Cut.route, Cut.backendPath, hwhole, ← String.toList_inj, hp, String.toList_ofList]
    rfl
  case stripped => exact fun r hr hstrip => stripped_of_resolve? hp hr hstrip
  case apart => exact fun q r hq hr => apart_iff hp hq hr

-- Services whose names begin alike.
private def alike : List Service :=
  [⟨"ab", "http://ab", true⟩, ⟨"a", "http://a", true⟩, ⟨"a%", "http://percent", false⟩]

/-- A slash behind a service's name makes no difference, even with slashes in the query. -/
theorem lossless_resolve_bare :
    (alike.map (·.name)).Nodup ∧ "/a?x=/ab".toList.head? = some '/' ∧
      ∃ r, resolve? alike "/a?x=/ab" = some r ∧ r.service.name = "a" ∧
        r.backendPath = "/?x=/ab" ∧ resolve? alike "/a/?x=/ab" = some r := by
  have hnodup : (alike.map (·.name)).Nodup := by decide
  have hpath : "/a?x=/ab".toList.head? = some '/' := by decide
  have hr : resolve? alike "/a?x=/ab" = some ⟨⟨"a", "http://a", true⟩, "/?x=/ab"⟩ := by decide
  have hadds : AddsSlash "a" "/a?x=/ab" "/a/?x=/ab" :=
    ⟨"?x=/ab", by simp, by decide, by decide⟩
  exact ⟨hnodup, hpath, _, hr, rfl, rfl,
    ((lossless_resolve alike hnodup _ hpath).apart _ _ (by decide) hr).mpr (.inr ⟨rfl, .inl hadds⟩)⟩

/-- Whatever follows its name, a request that begins with it goes to the service. -/
def Reachable (services : List Service) (s : Service) : Prop :=
  ∀ rest, ∃ r, resolve? services ("/" ++ s.name ++ "/" ++ rest) = some r ∧ r.service = s

private theorem mark_not_mem_of_find? {trimmed : List Char} {s : Service} (h : '?' ∉ trimmed)
    (hfind : services.find? (·.name == String.ofList (Text.splitAtFirst '/' trimmed).1) = some s) :
    '?' ∉ s.name.toList := by
  obtain ⟨segment, rest, rfl, hsegment⟩ := Text.exists_joinAt '/' trimmed
  rw [Text.splitAtFirst_joinAt hsegment] at hfind
  rw [name_of_find? hfind, String.toList_ofList]
  exact fun hmem => h (Text.mem_joinAt.mpr (.inl hmem))

/-- No request whatever finds a service that has a question mark in its name. -/
theorem mark_not_mem_name (h : resolve? services p = some r) : '?' ∉ r.service.name.toList := by
  obtain ⟨path, query, hp, hpath⟩ := Text.exists_joinAt '?' p.toList
  have hquery : Text.splitAtFirst '?' p.toList = (path, query) := by
    rw [hp, Text.splitAtFirst_joinAt hpath]
  simp only [resolve?, hquery] at h
  split at h
  next rest =>
    split at h
    · cases h
    · obtain ⟨s, hfind, hr⟩ := Option.bind_eq_some_iff.mp h
      cases hr
      exact mark_not_mem_of_find? (fun hmem => hpath (List.mem_cons_of_mem _ hmem)) hfind
  next =>
    split at h
    · cases h
    · obtain ⟨s, hfind, hr⟩ := Option.bind_eq_some_iff.mp h
      cases hr
      exact mark_not_mem_of_find? hpath hfind

private theorem reachable_of_unmarked (hnodup : (services.map (·.name)).Nodup) {s : Service}
    (hs : s ∈ services) (hsound : s.Sound) (hmark : '?' ∉ s.name.toList) :
    Reachable services s := by
  intro rest
  obtain ⟨behind, query, hrest, hbehind⟩ := Text.exists_joinAt '?' rest.toList
  have hunmarked : '?' ∉ Text.joinAt '/' s.name.toList (some behind) := by
    simpa [Text.mem_joinAt, not_or] using ⟨hmark, hbehind⟩
  have hp : ("/" ++ s.name ++ "/" ++ rest).toList =
      (⟨s.name.toList, some behind, query, hsound.undivided, hunmarked⟩ : Cut).toList := by
    simp [hrest, Cut.toList, Cut.path, Text.joinAt]
  have hname : s.name = firstSegment ("/" ++ s.name ++ "/" ++ rest) := by
    rw [firstSegment_eq hp, String.ofList_toList]
  exact chosen_of_find? hnodup hp hs hname (hname ▸ hsound.named)

/-- A service of settings that are found valid is reached exactly if its name has no question mark,
and no path at all leads to any other. -/
theorem reachable_iff_of_validate (s : Settings) (hvalid : s.validate = .ok ()) (service : Service)
    (hservice : service ∈ s.services) :
    (Reachable s.services service ↔ '?' ∉ service.name.toList) ∧
      (¬Reachable s.services service →
        ∀ path r, resolve? s.services path = some r → r.service ≠ service) := by
  have hcheck := Settings.checkServices_of_validate hvalid
  have hreached : '?' ∉ service.name.toList → Reachable s.services service :=
    reachable_of_unmarked (Settings.nodup_of_checkServices hcheck) hservice
      (Settings.sound_of_checkServices hcheck hservice)
  refine ⟨⟨?_, hreached⟩, ?_⟩
  · intro h
    obtain ⟨r, hr, rfl⟩ := h ""
    exact mark_not_mem_name hr
  · rintro hnot path r hr rfl
    exact hnot (hreached (mark_not_mem_name hr))

-- Settings with one service, of any name.
private def solitary (name : String) : Settings :=
  { listen := ⟨.v4 [127, 0, 0, 1], 8080, 0⟩, services := [⟨name, "http://h:1", true⟩] }

/-- Blanks, number signs and letters beyond ASCII are no obstacle. -/
theorem reachable_of_validate_blank :
    (solitary " é#%2f ").validate = .ok () ∧
      Reachable (solitary " é#%2f ").services ⟨" é#%2f ", "http://h:1", true⟩ := by
  have hvalid : (solitary " é#%2f ").validate = .ok () := by rfl
  have hreached := reachable_iff_of_validate _ hvalid ⟨" é#%2f ", "http://h:1", true⟩
    List.mem_cons_self
  exact ⟨hvalid, hreached.1.mpr (by decide)⟩

/-- Settings are found valid although nothing leads to a service of theirs. -/
theorem not_reachable_of_validate :
    ¬∀ s : Settings, s.validate = .ok () → ∀ service ∈ s.services, Reachable s.services service := by
  intro h
  have hvalid : (solitary "a?b").validate = .ok () := by rfl
  obtain ⟨r, hr, -⟩ := h _ hvalid _ List.mem_cons_self "x"
  have hnone : resolve? (solitary "a?b").services ("/" ++ "a?b" ++ "/" ++ "x") = none := by decide
  exact absurd (hnone.symm.trans hr) nofun

end Route

end TenantGateway
