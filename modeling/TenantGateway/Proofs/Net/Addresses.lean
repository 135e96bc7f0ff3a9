import TenantGateway.Net.Uri

/-! Addresses over plain HTTP. The scan of an authority stops before the first slash, question mark or
number sign, so that nothing behind one can change what it has read: an address keeps its authority
whatever its path is replaced by. -/
namespace TenantGateway.Net

/-- An authority ends before these. -/
def isDelimiter (c : Char) : Bool := c = '/' || c = '?' || c = '#'

/-- What can follow an authority. -/
def EndsAuthority (cs : List Char) : Prop := ∀ c ∈ cs.head?, isDelimiter c

/-- What an authority's scan makes of a character that is no delimiter. -/
def AuthorityMarks.note (m : AuthorityMarks) (c : Char) : Except UriError AuthorityMarks :=
  if c = ':' then
    if 8 ≤ m.colons then .error .invalidAuthority else .ok { m with colons := m.colons + 1 }
  else if c = '[' then
    if m.percent ∨ m.opened then .error .invalidAuthority else .ok { m with opened := true }
  else if c = ']' then
    if ¬m.opened ∨ m.closed then .error .invalidAuthority
    else .ok { m with closed := true, colons := 0, percent := false }
  else if c = '@' then .ok { m with colons := 0, percent := false }
  else if c = '%' then .ok { m with percent := true }
  else if isAuthorityChar c then .ok m
  else .error .invalidCharacter

section Scan

variable {m : AuthorityMarks} {last : Option Char} {c : Char} {cs a rest : List Char}

private theorem scanAuthority_of_isDelimiter (h : isDelimiter c) :
    scanAuthority m last (c :: cs) = scanAuthority.finish m last (c :: cs) := by
  simp only [isDelimiter, Bool.or_eq_true, decide_eq_true_eq, or_assoc] at h
  rw [scanAuthority, if_pos h]

private theorem scanAuthority_of_not_isDelimiter (h : isDelimiter c = false) :
    scanAuthority m last (c :: cs) =
      (m.note c).bind fun m => scanAuthority.keep c (scanAuthority m (some c) cs) := by
  simp only [isDelimiter, Bool.or_eq_false_iff, decide_eq_false_iff_not] at h
  have hstay : ¬(c = '/' ∨ c = '?' ∨ c = '#') := by
    rintro (hc | hc | hc)
    · exact h.1.1 hc
    · exact h.1.2 hc
    · exact h.2 hc
  rw [scanAuthority, if_neg hstay, AuthorityMarks.note]
  repeat' split
  all_goals rfl

private theorem finish_eq_ok (h : scanAuthority.finish m last cs = .ok (a, rest)) :
    a = [] ∧ cs = rest ∧ ∀ more, scanAuthority.finish m last more = .ok ([], more) := by
  rw [scanAuthority.finish] at h
  split at h
  · cases h
  next hwhole =>
    cases h
    exact ⟨rfl, rfl, fun _ => if_neg hwhole⟩

/-- What a scan has read is followed by a delimiter or by nothing, and is read again where it is
followed by something else of that kind. -/
theorem scanAuthority_eq_ok (h : scanAuthority m last cs = .ok (a, rest)) :
    cs = a ++ rest ∧ EndsAuthority rest ∧ a.all (!isDelimiter ·) ∧
      ∀ more, EndsAuthority more → scanAuthority m last (a ++ more) = .ok (a, more) := by
  induction cs generalizing m last a with
  | nil =>
    obtain ⟨rfl, rfl, hfinish⟩ := finish_eq_ok h
    refine ⟨rfl, nofun, rfl, ?_⟩
    intro more hmore
    cases more with
    | nil => exact h
    | cons d more =>
      exact (scanAuthority_of_isDelimiter (hmore d rfl)).trans (hfinish _)
  | cons c cs ih =>
    cases hc : isDelimiter c with
    | true =>
      rw [scanAuthority_of_isDelimiter hc] at h
      obtain ⟨rfl, rfl, hfinish⟩ := finish_eq_ok h
      refine ⟨rfl, fun d hd => Option.mem_some.mp hd ▸ hc, rfl, ?_⟩
      intro more hmore
      cases more with
      | nil => exact hfinish []
      | cons d more =>
        exact (scanAuthority_of_isDelimiter (hmore d rfl)).trans (hfinish _)
    | false =>
      rw [scanAuthority_of_not_isDelimiter hc] at h
      cases hnote : m.note c with
      | error e =>
        rw [hnote] at h
        cases h
      | ok n =>
        rw [hnote] at h
        change scanAuthority.keep c (scanAuthority n (some c) cs) = .ok (a, rest) at h
        cases hscan : scanAuthority n (some c) cs with
        | error e =>
          rw [hscan] at h
          cases h
        | ok scanned =>
          rw [hscan] at h
          cases h
          obtain ⟨hcs, hends, hall, hagain⟩ := ih hscan
          refine ⟨congrArg (c :: ·) hcs, hends, ?_, ?_⟩
          · rw [List.all_cons, hc, hall]
            rfl
          · intro more hmore
            rw [List.cons_append, scanAuthority_of_not_isDelimiter hc, hnote]
            change scanAuthority.keep c (scanAuthority n (some c) (scanned.1 ++ more)) = _
            rw [hagain more hmore]
            rfl

end Scan

/-- A text cut where an address over plain HTTP is cut: the scheme with its slashes in any case, the
authority, and the path with all that follows it. -/
structure PlainAddress where
  front : List Char
  authority : List Char
  tail : List Char
  isFront : front.map Char.toLower = "http://".toList
  nonempty : authority ≠ []
  scanned : scanAuthority .none none authority = .ok (authority, [])
  ends : EndsAuthority tail

namespace PlainAddress

def toList (p : PlainAddress) : List Char := p.front ++ p.authority ++ p.tail

/-- The same address up to its authority. -/
def goOn (p : PlainAddress) (tail : List Char) (ends : EndsAuthority tail) : PlainAddress :=
  { p with tail, ends }

/-- The identifier with a path and a query. -/
def uri (p : PlainAddress) : String × Option String → Uri
  | (path, query) =>
    { scheme := some "http"
      authority := some (String.ofList p.authority)
      path := if path.isEmpty then "/" else path
      query }

/-- Whatever the path, the identifier has the address's own scheme and authority. -/
theorem authority_of_map_uri {p : PlainAddress} {r : Except UriError (String × Option String)}
    {u : Uri} (h : r.map p.uri = .ok u) :
    u.scheme = some "http" ∧ u.authority = some (String.ofList p.authority) := by
  cases r with
  | error e => cases h
  | ok parts =>
    cases h
    exact ⟨rfl, rfl⟩

variable (p : PlainAddress)

private theorem length_front : p.front.length = 7 := by
  rw [← List.length_map (f := Char.toLower), p.isFront]
  rfl

/-- The authority of a plain address holds no delimiter. -/
theorem all_authority : p.authority.all (!isDelimiter ·) := (scanAuthority_eq_ok p.scanned).2.2.1

/-- The authority is read as it stands, whatever the path is. -/
theorem scanAuthority_eq :
    scanAuthority .none none (p.authority ++ p.tail) = .ok (p.authority, p.tail) :=
  (scanAuthority_eq_ok p.scanned).2.2.2 p.tail p.ends

private theorem splitScheme_eq :
    splitScheme p.toList = .ok (some "http", p.authority ++ p.tail) := by
  have htake : p.toList.take 7 = p.front := by
    rw [toList, List.append_assoc, ← p.length_front, List.take_left]
  have hdrop : p.toList.drop 7 = p.authority ++ p.tail := by
    rw [toList, List.append_assoc, ← p.length_front, List.drop_left]
  have hknown : ((p.toList.take ("http".length + 3)).map Char.toLower ==
      "http".toList ++ [':', '/', '/']) = true := by
    change ((p.toList.take 7).map Char.toLower == "http://".toList) = true
    rw [htake, p.isFront]
    rfl
  rw [splitScheme]
  simp only [hknown, if_true, hdrop]

private theorem exists_cons_cons : ∃ c d cs, p.toList = c :: d :: cs ∧ c ≠ '/' := by
  obtain ⟨c, d, front, hfront⟩ : ∃ c d front, p.front = c :: d :: front := by
    have hlength := p.length_front
    match hfront : p.front with
    | [] => simp [hfront] at hlength
    | [c] => simp [hfront] at hlength
    | c :: d :: front => exact ⟨c, d, front, rfl⟩
  refine ⟨c, d, front ++ p.authority ++ p.tail, ?_, ?_⟩
  · rw [toList, hfront]
    rfl
  · rintro rfl
    have hlower := p.isFront
    rw [hfront] at hlower
    have hhead : Char.toLower '/' = 'h' := (List.cons.inj hlower).1
    exact absurd hhead (by decide)

/-- An address over plain HTTP that is not too long is an identifier as soon as its path is one. -/
theorem parse_eq {s : String} (hs : s.toList = p.toList) :
    Uri.parse s =
      if Uri.maxLength < s.utf8ByteSize then .error .tooLong
      else (splitPathQuery p.tail).map p.uri := by
  obtain ⟨c, d, cs, hcs, hslash⟩ := p.exists_cons_cons
  rw [Uri.parse, hs]
  split
  · rfl
  have hfull : Uri.ofFull p.toList = (splitPathQuery p.tail).map p.uri := by
    have hnonempty : (p.authority ++ p.tail).isEmpty = false :=
      List.isEmpty_eq_false_iff.mpr (List.append_ne_nil_of_left_ne_nil p.nonempty _)
    simp only [Uri.ofFull, p.splitScheme_eq, bind, Except.bind, hnonempty, p.scanAuthority_eq,
      List.isEmpty_eq_false_iff.mpr p.nonempty]
    cases splitPathQuery p.tail <;> rfl
  rw [← hfull, hcs]
  split
  next hempty => cases hempty
  next hstar => cases hstar
  next hsingle => cases hsingle
  next rest hpath => exact absurd (List.cons.inj hpath).1 hslash
  next => rfl

end PlainAddress

private theorem splitScheme_eq_http {cs rest : List Char}
    (h : splitScheme cs = .ok (some "http", rest)) :
    (cs.take 7).map Char.toLower = "http://".toList ∧ rest = cs.drop 7 := by
  rw [splitScheme] at h
  simp only at h
  split at h
  next hknown =>
    cases h
    exact ⟨beq_iff_eq.mp hknown, rfl⟩
  next hknown =>
    split at h
    · have hsecure : "https" = "http" := Option.some.inj (congrArg Prod.fst (Except.ok.inj h))
      exact absurd hsecure (by decide)
    split at h
    next more hmore =>
      split at h
      · cases h
      split at h
      · cases h
      next =>
        have hname : cs.takeWhile isSchemeChar = "http".toList := by
          rw [← String.toList_ofList (l := cs.takeWhile isSchemeChar)]
          exact congrArg String.toList (Option.some.inj (congrArg Prod.fst (Except.ok.inj h)))
        have hcs : cs = "http".toList ++ ':' :: '/' :: '/' :: more := by
          rw [← hmore, ← hname]
          exact (List.prefix_iff_eq_append.mp (List.takeWhile_prefix _)).symm
        exact absurd (by rw [hcs]; rfl) hknown
    · cases h

/-- An identifier is a lone star, a path, or a full one. -/
theorem Uri.parse_cases {s : String} {u : Uri} (h : Uri.parse s = .ok u) :
    u = ⟨none, none, "*", none⟩ ∨ Uri.ofPath s.toList = .ok u ∨ Uri.ofFull s.toList = .ok u := by
  rw [Uri.parse] at h
  split at h
  · cases h
  split at h
  · cases h
  · cases h
    exact .inl rfl
  next c hstar hc =>
    rw [hc]
    split at h
    · exact .inr (.inl h)
    · cases hfull : Uri.ofFull [c] with
      | error e =>
        rw [hfull] at h
        cases h
      | ok v =>
        rw [hfull] at h
        cases h
        exact .inr (.inr rfl)
  next rest hrest =>
    rw [hrest]
    exact .inr (.inl h)
  · exact .inr (.inr h)

/-- An identifier that is read from a path has neither scheme nor authority. -/
theorem Uri.ofPath_eq_ok {cs : List Char} {u : Uri} (h : Uri.ofPath cs = .ok u) :
    ∃ parts, splitPathQuery cs = .ok parts ∧ u = ⟨none, none, parts.1, parts.2⟩ := by
  rw [Uri.ofPath] at h
  cases hsplit : splitPathQuery cs with
  | error e =>
    rw [hsplit] at h
    cases h
  | ok parts =>
    rw [hsplit] at h
    cases h
    exact ⟨parts, rfl, rfl⟩

/-- A full identifier is an authority alone, or is read part by part. -/
theorem Uri.ofFull_cases {cs : List Char} {u : Uri} (h : Uri.ofFull cs = .ok u) :
    (u.scheme = none ∧ u.authority.isSome) ∨
      ∃ name rest authority tail, splitScheme cs = .ok (some name, rest) ∧
        scanAuthority .none none rest = .ok (authority, tail) ∧ authority ≠ [] ∧
        (splitPathQuery tail).map (fun (path, query) =>
          { scheme := some name
            authority := some (String.ofList authority)
            path := if path.isEmpty then "/" else path
            query }) = .ok u := by
  simp only [Uri.ofFull, bind, Except.bind] at h
  split at h
  · cases h
  next parts hsplit =>
    obtain ⟨scheme, rest⟩ := parts
    simp only at h
    split at h
    · cases h
    split at h
    · cases h
    next scanned hscan =>
      obtain ⟨authority, tail⟩ := scanned
      simp only at h
      cases scheme with
      | none =>
        simp only at h
        split at h
        · cases h
          exact .inl ⟨rfl, rfl⟩
        · cases h
      | some scheme =>
        simp only at h
        split at h
        · cases h
        next hsome =>
          rw [List.isEmpty_iff] at hsome
          split at h
          · cases h
          next parts hpath =>
            cases h
            refine .inr ⟨scheme, rest, authority, tail, hsplit, hscan, hsome, ?_⟩
            rw [hpath]
            rfl

private theorem ofFull_of_parse {s : String} {u : Uri} (h : Uri.parse s = .ok u)
    (hscheme : u.scheme.isSome) : Uri.ofFull s.toList = .ok u := by
  rcases Uri.parse_cases h with rfl | hpath | hfull
  · cases hscheme
  · obtain ⟨parts, -, rfl⟩ := Uri.ofPath_eq_ok hpath
    cases hscheme
  · exact hfull

private theorem ofFull_eq_ok {cs : List Char} {u : Uri} {name : String}
    (h : Uri.ofFull cs = .ok u) (hscheme : u.scheme = some name) :
    ∃ rest authority tail, splitScheme cs = .ok (some name, rest) ∧
      scanAuthority .none none rest = .ok (authority, tail) ∧ authority ≠ [] ∧
      (splitPathQuery tail).map (fun (path, query) =>
        { scheme := some name
          authority := some (String.ofList authority)
          path := if path.isEmpty then "/" else path
          query }) = .ok u := by
  rcases Uri.ofFull_cases h with ⟨hnone, -⟩ | ⟨scheme, rest, authority, tail, hsplit, hscan, hsome, hu⟩
  · rw [hnone] at hscheme
    cases hscheme
  · have hname : scheme = name := by
      cases hparts : splitPathQuery tail with
      | error e =>
        rw [hparts] at hu
        cases hu
      | ok parts =>
        rw [hparts] at hu
        cases hu
        exact Option.some.inj hscheme
    subst hname
    exact ⟨rest, authority, tail, hsplit, hscan, hsome, hu⟩

/-- Every identifier with the scheme of plain HTTP comes from such an address. -/
theorem PlainAddress.exists_of_parse {s : String} {u : Uri} (h : Uri.parse s = .ok u)
    (hscheme : u.scheme = some "http") :
    ∃ p : PlainAddress, s.toList = p.toList ∧ (splitPathQuery p.tail).map p.uri = .ok u := by
  have hfull := ofFull_of_parse h (by rw [hscheme]; rfl)
  obtain ⟨rest, authority, tail, hsplit, hscan, hsome, hu⟩ := ofFull_eq_ok hfull hscheme
  obtain ⟨hfront, hrest⟩ := splitScheme_eq_http hsplit
  obtain ⟨hcut, hends, -, hagain⟩ := scanAuthority_eq_ok hscan
  have hwhole := hagain [] nofun
  rw [List.append_nil] at hwhole
  refine ⟨⟨s.toList.take 7, authority, tail, hfront, hsome, hwhole, hends⟩, ?_, hu⟩
  rw [toList, List.append_assoc, ← hcut, hrest, List.take_append_drop]

end TenantGateway.Net
