import TenantGateway.Net.Message
import TenantGateway.Proofs.Net.Addresses
import TenantGateway.Proofs.Text.Split

/-! Path, query and fragment of an identifier: the first number sign ends what is read, and the first
question mark before it ends the path. -/
namespace TenantGateway.Net
open Text (joinAt)

/-- What a path, a query and a fragment are read from. -/
def joinParts (path : List Char) (query fragment : Option (List Char)) : List Char :=
  joinAt '#' (joinAt '?' path query) fragment

/-- Every text is a path with a query and a fragment, or without them. -/
theorem exists_joinParts (cs : List Char) :
    ∃ path query fragment, cs = joinParts path query fragment ∧
    '?' ∉ path ∧ '#' ∉ joinAt '?' path query := by
  obtain ⟨body, fragment, rfl, hbody⟩ := Text.exists_joinAt '#' cs
  obtain ⟨path, query, rfl, hpath⟩ := Text.exists_joinAt '?' body
  exact ⟨path, query, fragment, rfl, hpath, hbody⟩

section Parts

variable {path : List Char} {query fragment : Option (List Char)} {parts : String × Option String}

private theorem takeWhile_path (hpath : '?' ∉ path) (hbody : '#' ∉ joinAt '?' path query)
    (fragment : Option (List Char)) :
    (joinParts path query fragment).takeWhile (fun c => c != '?' && c != '#') = path := by
  have hinside : ∀ c ∈ path, (c != '?' && c != '#') = true := by
    intro c hc
    rw [Bool.and_eq_true, bne_iff_ne, bne_iff_ne]
    exact ⟨fun h => hpath (h ▸ hc), fun h => hbody (Text.mem_joinAt.mpr (.inl (h ▸ hc)))⟩
  rw [joinParts, joinAt, joinAt, List.append_assoc, List.takeWhile_append_of_pos hinside]
  cases query with
  | some q => exact List.append_nil path
  | none => cases fragment <;> exact List.append_nil path

private theorem takeWhile_query {q : List Char} (hbody : '#' ∉ joinAt '?' path (some q))
    (fragment : Option (List Char)) :
    (q ++ fragment.elim [] ('#' :: ·)).takeWhile (· != '#') = q := by
  have hinside : '#' ∉ q := fun h => hbody (Text.mem_joinAt.mpr (.inr ⟨q, rfl, .inr h⟩))
  exact Text.takeWhile_joinAt hinside fragment

/-- A text that can be read is cut at the first marks, and its fragment is dropped. -/
theorem splitPathQuery_joinParts (hpath : '?' ∉ path) (hbody : '#' ∉ joinAt '?' path query)
    (h : splitPathQuery (joinParts path query fragment) = .ok parts) :
    parts = (String.ofList path, query.map String.ofList) := by
  have htake := takeWhile_path hpath hbody fragment
  have hdrop : (joinParts path query fragment).drop path.length =
      query.elim [] ('?' :: ·) ++ fragment.elim [] ('#' :: ·) := by
    rw [joinParts, joinAt, joinAt, List.append_assoc, List.drop_left]
  simp only [splitPathQuery, htake, hdrop] at h
  split at h
  · cases h
  cases query with
  | none =>
    cases fragment <;>
    · cases h
      rfl
  | some q =>
    simp only [Option.elim_some, List.cons_append, takeWhile_query hbody] at h
    split at h
    · cases h
      rfl
    · cases h

end Parts

namespace Uri

variable {s : String} {u : Uri}

private theorem unmarked_of_splitPathQuery {cs : List Char} {parts : String × Option String}
    (h : splitPathQuery cs = .ok parts) :
    '?' ∉ parts.1.toList ∧ '#' ∉ joinAt '?' parts.1.toList (parts.2.map String.toList) := by
  obtain ⟨path, query, fragment, rfl, hpath, hbody⟩ := exists_joinParts cs
  rw [splitPathQuery_joinParts hpath hbody h, String.toList_ofList, Option.map_map]
  have hquery : query.map (String.toList ∘ String.ofList) = query := by
    cases query with
    | none => rfl
    | some q => exact congrArg some String.toList_ofList
  rw [hquery]
  exact ⟨hpath, hbody⟩

private theorem toList_pathAndQuery (u : Uri) :
    u.pathAndQuery.toList = joinAt '?' u.path.toList (u.query.map String.toList) := by
  rw [pathAndQuery, String.toList_append, joinAt]
  cases u.query with
  | none => rfl
  | some q => rw [Option.elim_some, String.toList_append]; rfl

/-- The path and the query by which a request is routed are those of its target, and hold no number
sign. -/
theorem routingPath_cases (h : parse s = .ok u) :
    u.routingPath = "/" ∨ u.routingPath = "*" ∨
      u.routingPath.toList = joinAt '?' u.path.toList (u.query.map String.toList) ∧
        '?' ∉ u.path.toList ∧ '#' ∉ u.routingPath.toList := by
  rcases parse_cases h with rfl | hpath | hfull
  · exact .inr (.inl rfl)
  · obtain ⟨parts, hparts, rfl⟩ := ofPath_eq_ok hpath
    obtain ⟨hmark, hsign⟩ := unmarked_of_splitPathQuery hparts
    have hrouting : (⟨none, none, parts.1, parts.2⟩ : Uri).routingPath.toList =
        joinAt '?' parts.1.toList (parts.2.map String.toList) := toList_pathAndQuery _
    exact .inr (.inr ⟨hrouting, hmark, hrouting ▸ hsign⟩)
  rcases ofFull_cases hfull with ⟨hscheme, halone⟩ | ⟨name, rest, authority, tail, -, -, -, hu⟩
  · rw [routingPath, if_pos ⟨Option.isNone_iff_eq_none.mpr hscheme, halone⟩]
    exact .inl rfl
  cases hparts : splitPathQuery tail with
  | error e =>
    rw [hparts] at hu
    cases hu
  | ok parts =>
    rw [hparts] at hu
    cases hu
    obtain ⟨hmark, hsign⟩ := unmarked_of_splitPathQuery hparts
    obtain ⟨path, query⟩ := parts
    refine .inr (.inr ⟨toList_pathAndQuery _, ?_, ?_⟩)
    · change '?' ∉ (if path.isEmpty then "/" else path).toList
      split
      · decide
      · exact hmark
    · change '#' ∉ (pathAndQuery _).toList
      rw [toList_pathAndQuery]
      change '#' ∉ joinAt '?' (if path.isEmpty then "/" else path).toList (query.map String.toList)
      split
      · rw [Text.mem_joinAt, not_or] at hsign ⊢
        exact ⟨by decide, hsign.2⟩
      · exact hsign

end Uri

end TenantGateway.Net
