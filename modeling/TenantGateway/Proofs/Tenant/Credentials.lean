import TenantGateway.Simulation.Tenants
import TenantGateway.Tenant.Credential
import TenantGateway.Proofs.Net.Headers
import TenantGateway.Proofs.Tenant.Cache
import TenantGateway.Proofs.Text.Ascii
import TenantGateway.Proofs.Text.Blank
import TenantGateway.Proofs.Text.Split

/-! The key that a request presents: what stands behind the word for bearers in its first
`authorization` value, else what its first `x-api-key` value holds. Every value of the one header
either presents a key in full or leaves the decision to the other. -/
namespace TenantGateway.Tenant
open Text

/-- A visible character of the ASCII alphabet. -/
def IsVisible (c : Char) : Prop := 0x21 ≤ c.toNat ∧ c.toNat ≤ 0x7E

private theorem IsVisible.not_isBlank {c : Char} (h : IsVisible c) : isBlank c = false := by
  obtain ⟨hlow, hhigh⟩ := h
  simp only [isBlank, Bool.or_eq_false_iff, Bool.and_eq_false_iff, decide_eq_false_iff_not,
    beq_eq_false_iff_ne]
  omega

/-- A character that a readable value may hold. -/
def IsPlain (c : Char) : Prop := IsVisible c ∨ c = ' ' ∨ c = '\t'

/-- A text that can be a key: visible characters, and blanks between them. -/
structure IsKey (key : String) : Prop where
  named : key ≠ ""
  plain : ∀ c ∈ key.toList, IsPlain c
  trimmed : Trimmed key.toList

/-- Spaces and tabs, as many as one likes. -/
def Padding (cs : List Char) : Prop := ∀ c ∈ cs, c = ' ' ∨ c = '\t'

/-- The word before a bearer token. -/
def IsBearer (scheme : List Char) : Prop := Recased "bearer".toList scheme

/-- An `authorization` value that presents a key. -/
def Presents (value key : String) : Prop :=
  ∃ before scheme between after,
    value.toList = before ++ scheme ++ ' ' :: (between ++ key.toList ++ after) ∧
      IsBearer scheme ∧ Padding before ∧ Padding between ∧ Padding after ∧ IsKey key

/-- The first `authorization` value presents no key. -/
inductive Keyless (h : Headers) : Prop where
  | absent (hvalue : h.get? "authorization" = none)
  | unreadable {value : String} (hvalue : h.get? "authorization" = some value)
      (hread : Headers.isReadable value = false)
  /-- What the trimmed value begins with, up to its first space, is some other word. -/
  | otherScheme {value : String} {scheme : List Char} {rest : Option (List Char)}
      (hvalue : h.get? "authorization" = some value)
      (hcut : trimChars value.toList = joinAt ' ' scheme rest) (hword : ' ' ∉ scheme)
      (hscheme : ¬ IsBearer scheme)
  | emptyToken {value : String} {scheme : List Char} (hvalue : h.get? "authorization" = some value)
      (hpads : Pads scheme value.toList) (hscheme : IsBearer scheme)

section

variable {key value s : String} {scheme : List Char} {rest : Option (List Char)} {h : Headers}

private theorem Padding.blank {cs : List Char} (h : Padding cs) : Blank cs := by
  intro c hc
  rcases h c hc with rfl | rfl <;> decide

private theorem isBearer_iff :
    IsBearer scheme ↔ equalsIgnoringCase (String.ofList scheme) "bearer" = true := by
  have hlower : ∀ c ∈ "bearer".toList, c.toLower = c := by simp
  have hword : lowercaseAscii "bearer" = "bearer" := by decide
  rw [IsBearer, ← map_toLower_eq_iff hlower, equalsIgnoringCase, hword, beq_iff_eq, lowercaseAscii,
    ← String.toList_inj]
  simp only [String.toList_ofList]

private theorem nonblank?_eq_some_iff : nonblank? s = some key ↔ key ≠ "" ∧ trim s = key := by
  rw [nonblank?]
  by_cases hs : (trim s).isEmpty = true
  · rw [if_pos hs]
    simp only [reduceCtorEq, false_iff, not_and]
    rintro hne rfl
    exact hne (String.isEmpty_iff.mp hs)
  · rw [if_neg hs, Option.some.injEq]
    constructor
    · rintro rfl
      exact ⟨fun h => hs (String.isEmpty_iff.mpr h), rfl⟩
    · exact fun h => h.2

private theorem bearerToken?_of_cut (hcut : trimChars value.toList = joinAt ' ' scheme rest)
    (hword : ' ' ∉ scheme) : bearerToken? value = rest.bind fun token =>
      if equalsIgnoringCase (String.ofList scheme) "bearer" then nonblank? (String.ofList token)
      else none := by
  rw [bearerToken?, trim, String.toList_ofList, hcut, splitAtFirst_joinAt hword]
  cases rest with
  | none => rfl
  | some token => rfl

private theorem bearerToken?_of_isBearer (hcut : trimChars value.toList = joinAt ' ' scheme rest)
    (hword : ' ' ∉ scheme) (hscheme : IsBearer scheme) :
    bearerToken? value = rest.bind fun token => nonblank? (String.ofList token) := by
  simp only [bearerToken?_of_cut hcut hword, isBearer_iff.mp hscheme, if_true]

private theorem bearerToken?_of_not_isBearer
    (hcut : trimChars value.toList = joinAt ' ' scheme rest) (hword : ' ' ∉ scheme)
    (hscheme : ¬ IsBearer scheme) : bearerToken? value = none := by
  simp only [bearerToken?_of_cut hcut hword, if_neg (mt isBearer_iff.mpr hscheme),
    Option.bind_fun_none]

private theorem IsBearer.visible (h : IsBearer scheme) : ∀ d ∈ scheme, IsVisible d := by
  have hletters : ∀ c ∈ "bearer".toList, IsVisible c ∧ IsVisible c.toUpper := by simp [IsVisible]
  exact h.forall_mem hletters

private theorem IsBearer.space_not_mem (h : IsBearer scheme) : ' ' ∉ scheme := by
  intro hmem
  exact absurd (h.visible ' ' hmem) (by unfold IsVisible; decide)

private theorem IsBearer.ne_nil (h : IsBearer scheme) : scheme ≠ [] := by
  rintro rfl
  nomatch h

private theorem IsBearer.trimmed (h : IsBearer scheme) : Trimmed scheme :=
  .of_forall_mem fun d hd => (h.visible d hd).not_isBlank

private theorem trimmed_append {a b : List Char} {c : Char} (ha : Trimmed a) (hane : a ≠ [])
    (hb : Trimmed b) (hbne : b ≠ []) (gap : List Char) : Trimmed (a ++ c :: (gap ++ b)) where
  head := by
    obtain ⟨d, ds, rfl⟩ := List.exists_cons_of_ne_nil hane
    exact ha.head
  last := by
    have hlast : (a ++ c :: (gap ++ b)).getLast? = b.getLast? := by
      rw [show a ++ c :: (gap ++ b) = (a ++ c :: gap) ++ b by simp,
        List.getLast?_append_of_ne_nil _ hbne]
    rw [hlast]
    exact hb.last

private theorem isReadable_iff :
    Headers.isReadable value = true ↔ ∀ c ∈ value.toList, IsPlain c := by
  have hchar (c : Char) : c = '\t' ∨ 0x20 ≤ c.toNat ∧ c.toNat < 0x7F ↔ IsPlain c := by
    have hspace : c = ' ' ↔ c.toNat = 0x20 := Char.toNat_inj.symm
    have htab : c = '\t' ↔ c.toNat = 0x09 := Char.toNat_inj.symm
    rw [IsPlain, IsVisible, hspace, htab]
    omega
  rw [Headers.isReadable, List.all_eq_true]
  simp only [Bool.or_eq_true, beq_iff_eq, Bool.and_eq_true, decide_eq_true_eq, hchar]

private theorem isReadable_of_presents (hpresents : Presents value key) :
    Headers.isReadable value = true := by
  obtain ⟨before, scheme, between, after, hvalue, hscheme, hbefore, hbetween, hafter, hkey⟩ :=
    hpresents
  rw [isReadable_iff, hvalue]
  simp only [List.forall_mem_append, List.forall_mem_cons]
  exact ⟨⟨fun c hc => .inr (hbefore c hc), fun c hc => .inl (hscheme.visible c hc)⟩, .inr (.inl rfl),
    ⟨fun c hc => .inr (hbetween c hc), hkey.plain⟩, fun c hc => .inr (hafter c hc)⟩

private theorem bearerToken?_of_presents (hpresents : Presents value key) :
    bearerToken? value = some key := by
  obtain ⟨before, scheme, between, after, hvalue, hscheme, hbefore, hbetween, hafter, hkey⟩ := hpresents
  have hne : key.toList ≠ [] := mt String.toList_eq_nil_iff.mp hkey.named
  have hcut : trimChars value.toList = joinAt ' ' scheme (some (between ++ key.toList)) := by
    refine trimChars_of_pads ⟨before, after, hbefore.blank, hafter.blank, ?_⟩
      (trimmed_append hscheme.trimmed hscheme.ne_nil hkey.trimmed hne between)
    rw [hvalue]
    simp [joinAt]
  have htoken : trim (String.ofList (between ++ key.toList)) = key := by
    rw [trim, String.toList_ofList, trimChars_of_pads ⟨between, [], hbetween.blank, Blank.nil,
      (List.append_nil _).symm⟩ hkey.trimmed, String.ofList_toList]
  rw [bearerToken?_of_isBearer hcut hscheme.space_not_mem hscheme, Option.bind_some,
    nonblank?_eq_some_iff]
  exact ⟨hkey.named, htoken⟩

private theorem padding_of_blank {cs : List Char} (hblank : Blank cs)
    (hplain : ∀ c ∈ cs, IsPlain c) :
    Padding cs := by
  intro c hc
  rcases hplain c hc with hvisible | hpadding
  · have hnot := hvisible.not_isBlank
    rw [hblank c hc] at hnot
    contradiction
  · exact hpadding

private theorem not_blank_of_trimmed {a b : List Char} (h : Trimmed (a ++ b)) (hne : b ≠ []) :
    ¬ Blank b := by
  intro hblank
  have hlast : (a ++ b).getLast? = some (b.getLast hne) := by
    rw [List.getLast?_append_of_ne_nil _ hne, List.getLast?_eq_some_getLast hne]
  have hnot := h.last _ hlast
  rw [hblank _ (List.getLast_mem hne)] at hnot
  contradiction

private theorem presents_of_cut {token : List Char} (hread : Headers.isReadable value = true)
    (hcut : trimChars value.toList = joinAt ' ' scheme (some token)) (hscheme : IsBearer scheme) :
    Presents value (String.ofList (trimChars token)) := by
  -- Behind the word and its space stands a key, since the value has lost the white space at its
  -- end.
  obtain ⟨before, after, hbefore, hafter, hvalue⟩ := pads_trimChars value.toList
  obtain ⟨between, behind, hbetween, hbehind, htoken⟩ := pads_trimChars token
  have htrimmed := trimmed_trimChars value.toList
  rw [hcut, joinAt, Option.elim_some] at hvalue htrimmed
  have hnamed : trimChars token ≠ [] := by
    intro hnil
    refine not_blank_of_trimmed htrimmed (List.cons_ne_nil _ _) ?_
    exact List.forall_mem_cons.mpr ⟨by decide, trimChars_eq_nil_iff.mp hnil⟩
  -- nothing is left to trim behind the token, but the two paddings can just as well be one
  have hwhole : value.toList =
      before ++ scheme ++ ' ' :: (between ++ trimChars token ++ (behind ++ after)) := by
    rw [hvalue]
    calc before ++ (scheme ++ ' ' :: token) ++ after
      _ = before ++ (scheme ++ ' ' :: (between ++ trimChars token ++ behind)) ++ after := by
        rw [← htoken]
      _ = _ := by simp
  rw [isReadable_iff, hwhole] at hread
  simp only [List.forall_mem_append, List.forall_mem_cons] at hread
  obtain ⟨⟨hplainBefore, -⟩, -, ⟨hplainBetween, hplain⟩, hplainBehind, hplainAfter⟩ := hread
  have hbehindAfter : ∀ c ∈ behind ++ after, IsPlain c :=
    List.forall_mem_append.mpr ⟨hplainBehind, hplainAfter⟩
  refine ⟨before, scheme, between, behind ++ after, by rwa [String.toList_ofList], hscheme,
    padding_of_blank hbefore hplainBefore, padding_of_blank hbetween hplainBetween,
    padding_of_blank (hbehind.append hafter) hbehindAfter, ?_⟩
  exact {
    named := by rwa [ne_eq, ← String.toList_eq_nil_iff, String.toList_ofList]
    plain := by rwa [String.toList_ofList]
    trimmed := by
      rw [String.toList_ofList]
      exact trimmed_trimChars token }

private theorem presents_or_keyless (h : Headers) :
    (∃ value key, h.get? "authorization" = some value ∧ Presents value key) ∨ Keyless h := by
  cases hvalue : h.get? "authorization" with
  | none => exact .inr (.absent hvalue)
  | some value =>
    by_cases hread : Headers.isReadable value = true
    · obtain ⟨scheme, rest, hcut, hword⟩ := exists_joinAt ' ' (trimChars value.toList)
      by_cases hscheme : IsBearer scheme
      · cases rest with
        | none =>
          have hpads := pads_trimChars value.toList
          rw [hcut, joinAt, Option.elim_none, List.append_nil] at hpads
          exact .inr (.emptyToken hvalue hpads hscheme)
        | some token => exact .inl ⟨value, _, rfl, presents_of_cut hread hcut hscheme⟩
      · exact .inr (.otherScheme hvalue hcut hword hscheme)
    · exact .inr (.unreadable hvalue (Bool.not_eq_true _ ▸ hread))

private theorem bind_bearerToken?_of_none (hvalue : h.get? "authorization" = some value)
    (hnone : bearerToken? value = none) :
    (h.readable? "authorization").bind bearerToken? = none := by
  rw [Headers.readable?, hvalue, Option.filter_some]
  split
  · rw [Option.bind_some, hnone]
  · rfl

private theorem bind_bearerToken?_of_keyless (hkeyless : Keyless h) :
    (h.readable? "authorization").bind bearerToken? = none := by
  cases hkeyless with
  | absent hvalue =>
    rw [Headers.readable?, hvalue]
    rfl
  | unreadable hvalue hread =>
    rw [Headers.readable?, hvalue, Option.filter_some, if_neg (by simp [hread])]
    rfl
  | otherScheme hvalue hcut hword hscheme =>
    exact bind_bearerToken?_of_none hvalue (bearerToken?_of_not_isBearer hcut hword hscheme)
  | @emptyToken value scheme hvalue hpads hscheme =>
    have hcut : trimChars value.toList = joinAt ' ' scheme none := by
      rw [joinAt, Option.elim_none, List.append_nil, trimChars_of_pads hpads hscheme.trimmed]
    exact bind_bearerToken?_of_none hvalue
      (bearerToken?_of_isBearer hcut hscheme.space_not_mem hscheme)

private theorem bind_bearerToken?_of_presents (hvalue : h.get? "authorization" = some value)
    (hpresents : Presents value key) :
    (h.readable? "authorization").bind bearerToken? = some key := by
  rw [Headers.readable?, hvalue, Option.filter_some, if_pos (isReadable_of_presents hpresents),
    Option.bind_some, bearerToken?_of_presents hpresents]

/-- The key in the request's other header. -/
def Bears (h : Headers) (key : String) : Prop :=
  ∃ value, h.get? "x-api-key" = some value ∧ (∀ c ∈ value.toList, IsPlain c) ∧
    Pads key.toList value.toList ∧ IsKey key

private theorem isKey_of_pads (hplain : ∀ c ∈ value.toList, IsPlain c) (hnamed : key ≠ "")
    (hpads : Pads key.toList value.toList) (htrimmed : Trimmed key.toList) : IsKey key where
  named := hnamed
  plain := by
    obtain ⟨before, after, -, -, hvalue⟩ := hpads
    rw [hvalue, List.forall_mem_append, List.forall_mem_append] at hplain
    exact hplain.1.2
  trimmed := htrimmed

private theorem bind_nonblank?_eq_some_iff :
    (h.readable? "x-api-key").bind nonblank? = some key ↔ Bears h key := by
  simp only [Headers.readable?, Option.bind_eq_some_iff, Option.filter_eq_some_iff,
    isReadable_iff, nonblank?_eq_some_iff, trim_eq_iff]
  constructor
  · rintro ⟨value, ⟨hvalue, hplain⟩, hnamed, hpads, htrimmed⟩
    exact ⟨value, hvalue, hplain, hpads, isKey_of_pads hplain hnamed hpads htrimmed⟩
  · rintro ⟨value, hvalue, hplain, hpads, hkey⟩
    exact ⟨value, ⟨hvalue, hplain⟩, hkey.named, hpads, hkey.trimmed⟩

private theorem credential?_remove :
    credential? (h.remove "authorization") = (h.readable? "x-api-key").bind nonblank? := by
  rw [credential?, Headers.readable?, Headers.get?_remove_self, Headers.readable?,
    Headers.get?_remove_of_ne h (by decide), ← Headers.readable?]
  rfl

private theorem credential?_of_presents (hvalue : h.get? "authorization" = some value)
    (hpresents : Presents value key) : credential? h = some key := by
  rw [credential?, bind_bearerToken?_of_presents hvalue hpresents]
  rfl

private theorem credential?_of_keyless (hkeyless : Keyless h) :
    credential? h = credential? (h.remove "authorization") := by
  rw [credential?_remove, credential?, bind_bearerToken?_of_keyless hkeyless]
  rfl

/-- Whatever is presented is a key. -/
theorem isKey_of_credential? (hkey : credential? h = some key) : IsKey key := by
  rcases presents_or_keyless h with ⟨value, key', hvalue, hpresents⟩ | hkeyless
  · rw [credential?_of_presents hvalue hpresents] at hkey
    obtain rfl := Option.some.inj hkey
    obtain ⟨_, _, _, _, -, -, -, -, -, hkey⟩ := hpresents
    exact hkey
  · rw [credential?_of_keyless hkeyless, credential?_remove, bind_nonblank?_eq_some_iff] at hkey
    obtain ⟨_, -, -, -, hkey⟩ := hkey
    exact hkey

private theorem credential?_congr {g : Headers}
    (hbearer : g.get? "authorization" = h.get? "authorization")
    (hkey : g.get? "x-api-key" = h.get? "x-api-key") : credential? g = credential? h := by
  rw [credential?, credential?, Headers.readable?, Headers.readable?, Headers.readable?,
    Headers.readable?, hbearer, hkey]

end

private theorem inquire_ne_missing {key : String} (hkey : IsKey key) (c : Cache) (now : Instant) :
    (c.inquire key now).1 ≠ .done (.denied .missing) := by
  have htrim : trim key = key :=
    trim_eq_iff.mpr ⟨.refl _, hkey.trimmed⟩
  rcases c.inquire_cases key now with
    ⟨hblank, -⟩ | ⟨f, -, ⟨e, -, -, hnext⟩ | ⟨e, -, -, hnext⟩ | ⟨-, hnext⟩⟩
  · rw [htrim, String.isEmpty_iff] at hblank
    exact absurd hblank hkey.named
  all_goals
    rw [hnext]
    exact nofun

private theorem settle_ne_missing (c : Cache) (ttlSeconds : Nat) (f : Fingerprint)
    (stale : Option Entry) (now : Instant) (answer : Except DirectoryError (Option Record)) :
    (c.settle ttlSeconds f stale now answer).1 ≠ .denied .missing := by
  rcases c.settle_cases ttlSeconds f stale now answer with
    ⟨r, -, hend⟩ | ⟨r, -, -, hend⟩ | ⟨-, hend⟩ | ⟨_, e, -, -, hend⟩ | ⟨_, -, -, hend⟩
  all_goals
    rw [hend]
    exact nofun

/-- Who presents a key is never told that it is missing. -/
theorem authenticate_ne_missing (s : Simulation.TenantSession) {key : String} (hkey : IsKey key) :
    (s.authenticate (some key)).1 ≠ .denied .missing := by
  rw [Simulation.TenantSession.authenticate]
  generalize s.runThrough s.now = u
  have hinquire := inquire_ne_missing hkey u.cache u.now
  dsimp only
  generalize u.cache.inquire key u.now = found at hinquire ⊢
  obtain ⟨next, ms⟩ := found
  cases next with
  | done verdict =>
    rintro rfl
    exact hinquire rfl
  | ask f stale => exact settle_ne_missing _ _ _ _ _ _

/-- How the credential of a request is found. -/
structure Extracted (h : Headers) : Prop where
  clean : ∀ key, credential? h = some key → IsKey key
  welcome : ∀ s : Simulation.TenantSession,
    (s.authenticate (credential? h)).1 = .denied .missing ↔ credential? h = none
  confined : ∀ g : Headers, g.get? "authorization" = h.get? "authorization" →
    g.get? "x-api-key" = h.get? "x-api-key" → credential? g = credential? h
  bearer : ∀ value key, h.get? "authorization" = some value → Presents value key →
    credential? h = some key
  fallback : Keyless h → credential? h = credential? (h.remove "authorization")
  /-- There is no third way for the first `authorization` value to be. -/
  either : (∃ value key, h.get? "authorization" = some value ∧ Presents value key) ∨ Keyless h
  spare : ∀ key, credential? (h.remove "authorization") = some key ↔ Bears h key

/-- The credential of a request is found as it should be, whatever the request's fields. -/
theorem extracted_credential (h : Headers) : Extracted h where
  clean _ hkey := isKey_of_credential? hkey
  welcome s := by
    cases hkey : credential? h with
    | none => exact iff_of_true rfl rfl
    | some key => exact iff_of_false (authenticate_ne_missing s (isKey_of_credential? hkey)) nofun
  confined _ hbearer hkey := credential?_congr hbearer hkey
  bearer _ _ hvalue hpresents := credential?_of_presents hvalue hpresents
  fallback := credential?_of_keyless
  either := presents_or_keyless h
  spare key := by rw [credential?_remove, bind_nonblank?_eq_some_iff]

/-- What pads a token is no part of it, and a token of padding alone is none. -/
example :
    credential? [("authorization", " bEaRER \t a b\t"), ("x-api-key", "c")] = some "a b" ∧
      credential? [("authorization", " bEaRER \t"), ("x-api-key", " c ")] = some "c" := by
  decide

end TenantGateway.Tenant
