import TenantGateway.Proofs.Net.AddressTexts
import TenantGateway.Proofs.Pipeline.Identity
import TenantGateway.Proofs.Text.Blank
import TenantGateway.Proofs.Text.Split

/-! What a backend hears of the way that a request has taken. The peer is noted last, behind the first
of the lists that have arrived; the host is the one that was asked for. A second list is lost, and
without a host the client's word for it stands. -/
namespace TenantGateway

namespace Forwarding
open Net (IpAddress)

/-- The addresses that a field lists, first to last. -/
def hopList (value : String) : List String :=
  (Text.splitAtEach ',' value.toList).map fun cs => String.ofList (Text.trimChars cs)

private theorem hopList_ne_nil (value : String) : hopList value ≠ [] := by
  rw [hopList, ne_eq, List.map_eq_nil_iff]
  exact Text.splitAtEach_ne_nil ',' value.toList

private theorem hopList_append (a b : String) :
    hopList (a ++ ", " ++ b) = hopList a ++ hopList b := by
  have htext : (a ++ ", " ++ b).toList = a.toList ++ ',' :: ' ' :: b.toList := by simp
  rw [hopList, htext, Text.splitAtEach_append_cons, List.map_append,
    Text.splitAtEach_cons_of_ne (by decide), hopList, hopList]
  congr 1
  cases hb : Text.splitAtEach ',' b.toList with
  | nil => exact absurd hb (Text.splitAtEach_ne_nil ',' b.toList)
  | cons first others =>
    rw [List.modifyHead_cons, List.map_cons, List.map_cons, Text.trimChars_cons_of_blank (by decide)]

private theorem hopList_text (peer : IpAddress) : hopList peer.text = [peer.text] := by
  have hcomma : ',' ∉ peer.text.toList := by
    intro hmem
    have hbounds := peer.isAddressChar_text ',' hmem
    exact absurd hbounds.1 (by decide)
  have htrim : Text.trimChars peer.text.toList = peer.text.toList :=
    Text.trimChars_of_not_blank fun c hc => (peer.isAddressChar_text c hc).not_isBlank
  rw [hopList, Text.splitAtEach_of_not_mem hcomma, List.map_singleton, htrim, String.ofList_toList]

private theorem isValue_of_isReadable {value : String} (h : Headers.isReadable value = true) :
    Headers.isValue value = true := by
  rw [Headers.isReadable, List.all_eq_true] at h
  rw [Headers.isValue, List.all_eq_true]
  intro c hc
  have hchar := h c hc
  simp only [Bool.or_eq_true, Bool.and_eq_true, decide_eq_true_eq, beq_iff_eq, bne_iff_ne] at hchar ⊢
  refine hchar.imp_right fun hrange => ⟨hrange.1, ?_⟩
  omega

private theorem isReadable_text (peer : IpAddress) : Headers.isReadable peer.text = true := by
  rw [Headers.isReadable, List.all_eq_true]
  intro c hc
  obtain ⟨hlow, hhigh⟩ := peer.isAddressChar_text c hc
  simp only [Bool.or_eq_true, Bool.and_eq_true, decide_eq_true_eq, beq_iff_eq]
  omega

private theorem isReadable_append {a b : String} :
    Headers.isReadable (a ++ b) = (Headers.isReadable a && Headers.isReadable b) := by
  rw [Headers.isReadable, String.toList_append, List.all_append, Headers.isReadable,
    Headers.isReadable]

/-- The fields of the way as they are told: the addresses of some lists with the peer behind them, and
some hosts. -/
structure Told (h : Headers) (peer : IpAddress) (lists hosts : List String) (g : Headers) : Prop where
  hops : ∃ value, g.getAll "x-forwarded-for" = [value] ∧
    hopList value = lists.flatMap hopList ++ [peer.text]
  host : g.getAll "x-forwarded-host" = hosts
  proto : g.getAll "x-forwarded-proto" = ["http"]
  others : ∀ name, name ∉ wayNames → g.getAll name = h.getAll name

/-- All the lists that have arrived are told, and the host that was asked for, never another. -/
def Trustworthy (h : Headers) (peer : IpAddress) (g : Headers) : Prop :=
  Told h peer (h.getAll "x-forwarded-for") (h.get? "host").toList g

variable {h : Headers} {peer : IpAddress}

private theorem hops_cases
    (hreadable : ∀ v ∈ h.getAll "x-forwarded-for", Headers.isReadable v = true) (peer : IpAddress) :
    (h.getAll "x-forwarded-for" = [] ∧ hops h peer = peer.text) ∨
      ∃ v rest, h.getAll "x-forwarded-for" = v :: rest ∧ Headers.isReadable v = true ∧
        hops h peer = v ++ ", " ++ peer.text := by
  rw [hops, Headers.readable?, Headers.get?_eq_head?_getAll]
  cases hvalues : h.getAll "x-forwarded-for" with
  | nil => exact .inl ⟨rfl, rfl⟩
  | cons v rest =>
    rw [hvalues] at hreadable
    have hv := hreadable v List.mem_cons_self
    refine .inr ⟨v, rest, rfl, hv, ?_⟩
    rw [List.head?_cons, Option.filter_some, if_pos hv]

private theorem isValue_hops
    (hreadable : ∀ v ∈ h.getAll "x-forwarded-for", Headers.isReadable v = true) (peer : IpAddress) :
    Headers.isValue (hops h peer) = true := by
  apply isValue_of_isReadable
  rcases hops_cases hreadable peer with ⟨-, hhops⟩ | ⟨v, rest, -, hv, hhops⟩
  · rw [hhops, isReadable_text]
  · rw [hhops, isReadable_append, isReadable_append, hv, isReadable_text]
    decide

private theorem hopList_hops
    (hreadable : ∀ v ∈ h.getAll "x-forwarded-for", Headers.isReadable v = true) (peer : IpAddress) :
    hopList (hops h peer) =
      (h.getAll "x-forwarded-for").head?.toList.flatMap hopList ++ [peer.text] := by
  rcases hops_cases hreadable peer with ⟨hnone, hhops⟩ | ⟨v, rest, hvalues, -, hhops⟩
  · rw [hhops, hnone, hopList_text]
    rfl
  · rw [hhops, hvalues, hopList_append, hopList_text, List.head?_cons, Option.toList_some,
      List.flatMap_singleton]

private theorem getAll_noteHost_of_ne (h : Headers) {name : String}
    (hne : "x-forwarded-host" ≠ name) :
    (noteHost h).getAll name = h.getAll name := by
  rw [noteHost]
  split
  · exact Headers.getAll_set_of_ne _ _ hne
  · rfl

private theorem getAll_noteHost (h : Headers) :
    (noteHost h).getAll "x-forwarded-host" =
      (h.get? "host").elim (h.getAll "x-forwarded-host") ([·]) := by
  rw [noteHost]
  split
  next host hhost => rw [Headers.getAll_set_self, hhost, Option.elim_some]
  next hhost => rw [hhost, Option.elim_none]

/-- The first of the lists is told, and without a host the client's own hosts. -/
theorem told_addForwarded
    (hreadable : ∀ v ∈ h.getAll "x-forwarded-for", Headers.isReadable v = true) (peer : IpAddress) :
    Told h peer (h.getAll "x-forwarded-for").head?.toList
      ((h.get? "host").elim (h.getAll "x-forwarded-host") ([·])) (addForwarded h peer) := by
  constructor
  case hops =>
    refine ⟨hops h peer, ?_, hopList_hops hreadable peer⟩
    rw [addForwarded_eq, Headers.getAll_set_of_ne _ _ (by decide), getAll_noteHost_of_ne _ (by decide),
      Headers.getAll_setValid_self _ (isValue_hops hreadable peer)]
  case host =>
    rw [addForwarded_eq, Headers.getAll_set_of_ne _ _ (by decide), getAll_noteHost,
      Headers.get?_eq_head?_getAll, Headers.getAll_setValid_of_ne _ _ (by decide),
      Headers.getAll_setValid_of_ne _ _ (by decide), Headers.get?_eq_head?_getAll]
  case proto => rw [addForwarded_eq, Headers.getAll_set_self]
  case others =>
    intro name hname
    simp only [wayNames, List.mem_cons, List.not_mem_nil, or_false, not_or] at hname
    obtain ⟨hfor, hhost, hproto⟩ := hname
    exact getAll_addForwarded h peer (Ne.symm hfor) (Ne.symm hhost) (Ne.symm hproto)

private theorem flatMap_head?_eq_iff (lists : List String) :
    lists.head?.toList.flatMap hopList = lists.flatMap hopList ↔ lists.length ≤ 1 := by
  -- Every list tells of something, so that none but the first can go without a loss.
  cases lists with
  | nil => exact iff_of_true rfl (Nat.zero_le 1)
  | cons first others =>
    rw [List.head?_cons, Option.toList_some, List.flatMap_singleton, List.flatMap_cons,
      List.self_eq_append_right, List.length_cons]
    cases others with
    | nil => exact iff_of_true rfl (Nat.le_refl 1)
    | cons second others =>
      refine iff_of_false ?_ (by simp)
      rw [List.flatMap_cons, List.append_eq_nil_iff, not_and]
      exact fun hnone => absurd hnone (hopList_ne_nil second)

/-- What the fields tell can be put in other words, but nothing else can be read from them. -/
theorem Told.told_iff {lists hosts others guests : List String} {g : Headers}
    (htold : Told h peer lists hosts g) :
    Told h peer others guests g ↔
      lists.flatMap hopList = others.flatMap hopList ∧ hosts = guests := by
  obtain ⟨⟨value, hvalue, hlist⟩, hhost, hproto, hothers⟩ := htold
  constructor
  · rintro ⟨⟨value', hvalue', hlist'⟩, hhost', -, -⟩
    obtain rfl : value = value' := List.singleton_inj.mp (hvalue.symm.trans hvalue')
    exact ⟨List.append_cancel_right (hlist.symm.trans hlist'), hhost.symm.trans hhost'⟩
  · rintro ⟨hlists, rfl⟩
    exact ⟨⟨value, hvalue, by rw [hlist, hlists]⟩, hhost, hproto, hothers⟩

private theorem elim_eq_toList_iff (host : Option String) (claimed : List String) :
    host.elim claimed ([·]) = host.toList ↔ (host = none → claimed = []) := by
  cases host with
  | none => exact ⟨fun h _ => h, fun h => h rfl⟩
  | some host => exact iff_of_true rfl nofun

/-- The first of the lists is told and no other, and where no host was asked for, the client's word
for it. So a backend can rely on what it hears exactly if there was no second list and, without a
host, no such word. -/
theorem trustworthy_iff_of_readable (h : Headers) (peer : IpAddress)
    (hreadable : ∀ v ∈ h.getAll "x-forwarded-for", Headers.isReadable v = true) :
    Told h peer (h.getAll "x-forwarded-for").head?.toList
        ((h.get? "host").elim (h.getAll "x-forwarded-host") ([·])) (addForwarded h peer) ∧
      (Trustworthy h peer (addForwarded h peer) ↔
        (h.getAll "x-forwarded-for").length ≤ 1 ∧
          (h.get? "host" = none → h.getAll "x-forwarded-host" = [])) := by
  have htold := told_addForwarded hreadable peer
  refine ⟨htold, ?_⟩
  rw [Trustworthy, htold.told_iff, flatMap_head?_eq_iff, elim_eq_toList_iff]

/-- A list of two addresses goes on with a third, and a forged host gives way to the one asked for. -/
theorem trustworthy_of_readable_forged :
    ∃ h : Headers, h.getAll "x-forwarded-for" = ["10.0.0.1, 10.0.0.2"] ∧
      h.getAll "x-forwarded-host" = ["evil.example"] ∧ h.get? "host" = some "api.example" ∧
      (∀ v ∈ h.getAll "x-forwarded-for", Headers.isReadable v = true) ∧
      Trustworthy h (.v4 [192, 168, 1, 9]) (addForwarded h (.v4 [192, 168, 1, 9])) := by
  let h : Headers := [("x-forwarded-for", "10.0.0.1, 10.0.0.2"), ("host", "api.example"),
    ("x-forwarded-host", "evil.example")]
  have hreadable : ∀ v ∈ h.getAll "x-forwarded-for", Headers.isReadable v = true := by decide
  exact ⟨h, by decide, by decide, by decide, hreadable,
    (trustworthy_iff_of_readable h _ hreadable).2.mpr ⟨by decide, by decide⟩⟩

/-- Two lists arrive, and the second of them is lost. -/
theorem not_trustworthy_of_twoLists :
    ¬∀ (h : Headers) (peer : IpAddress),
      (∀ v ∈ h.getAll "x-forwarded-for", Headers.isReadable v = true) →
        Trustworthy h peer (addForwarded h peer) := by
  intro hall
  let h : Headers := [("x-forwarded-for", "10.0.0.1"), ("x-forwarded-for", "10.0.0.2")]
  obtain ⟨⟨value, hvalue, hhops⟩, -, -, -⟩ := hall h (.v4 [192, 168, 1, 9]) (by decide)
  obtain rfl : "10.0.0.1, 192.168.1.9" = value := List.singleton_inj.mp (.trans (by decide) hvalue)
  exact absurd hhops (by decide)

end Forwarding

end TenantGateway
