import TenantGateway.Net.SocketAddress
import TenantGateway.Text.Blank

/-! The texts of addresses hold digits, points and colons, and nothing that a header field or a list of
addresses could trip over. -/
namespace TenantGateway.Net

/-- A bound on the characters of addresses: from the point to the last digit of base sixteen. -/
def IsAddressChar (c : Char) : Prop := 0x2E ≤ c.toNat ∧ c.toNat ≤ 0x66

/-- No character of an address is white space. -/
theorem IsAddressChar.not_isBlank {c : Char} (h : IsAddressChar c) : Text.isBlank c = false := by
  obtain ⟨hlow, hhigh⟩ := h
  simp only [Text.isBlank, Bool.or_eq_false_iff, Bool.and_eq_false_iff, decide_eq_false_iff_not,
    beq_eq_false_iff_ne]
  omega

private theorem isAddressChar_digitChar : ∀ d < 16, IsAddressChar (Nat.digitChar d) := by
  unfold IsAddressChar
  decide

private theorem isAddressChar_of_mem_toDigits {base : Nat} (hone : 1 < base) (hbase : base ≤ 16)
    (n : Nat) : ∀ c ∈ Nat.toDigits base n, IsAddressChar c := by
  induction n using Nat.strongRecOn with
  | ind n ih =>
    by_cases hlt : n < base
    · rw [Nat.toDigits_of_lt_base hlt, List.forall_mem_singleton]
      exact isAddressChar_digitChar n (Nat.lt_of_lt_of_le hlt hbase)
    · have hle := Nat.not_lt.mp hlt
      have hpos : 0 < n := by omega
      rw [Nat.toDigits_of_base_le hone hle, List.forall_mem_append, List.forall_mem_singleton]
      refine ⟨ih (n / base) (Nat.div_lt_self hpos hone), isAddressChar_digitChar _ ?_⟩
      exact Nat.lt_of_lt_of_le (Nat.mod_lt n (by omega)) hbase

private theorem forall_mem_intercalate {sep : String} {texts : List String} {P : Char → Prop}
    (hsep : ∀ c ∈ sep.toList, P c) (htexts : ∀ s ∈ texts, ∀ c ∈ s.toList, P c) :
    ∀ c ∈ (sep.intercalate texts).toList, P c := by
  rw [String.toList_intercalate]
  induction texts with
  | nil => exact nofun
  | cons s texts ih =>
    obtain ⟨hs, hrest⟩ := List.forall_mem_cons.mp htexts
    cases texts with
    | nil => simpa using hs
    | cons t texts =>
      rw [List.map_cons, List.map_cons, List.intercalate_cons_cons, List.forall_mem_append,
        List.forall_mem_append]
      exact ⟨⟨hs, hsep⟩, ih hrest⟩

private theorem isAddressChar_octets (octets : List Nat) :
    ∀ c ∈ (".".intercalate (octets.map toString)).toList, IsAddressChar c := by
  apply forall_mem_intercalate
  · simp [IsAddressChar]
  · intro s hs
    obtain ⟨n, -, rfl⟩ := List.mem_map.mp hs
    change ∀ c ∈ n.repr.toList, IsAddressChar c
    rw [Nat.toList_repr]
    exact isAddressChar_of_mem_toDigits (by decide) (by decide) n

private theorem isAddressChar_hexGroups (groups : List Nat) :
    ∀ c ∈ (hexGroups groups).toList, IsAddressChar c := by
  apply forall_mem_intercalate
  · simp [IsAddressChar]
  · intro s hs
    obtain ⟨n, -, rfl⟩ := List.mem_map.mp hs
    rw [String.toList_ofList]
    exact isAddressChar_of_mem_toDigits (by decide) (by decide) n

/-- The text of an address is made of the characters of addresses. -/
theorem IpAddress.isAddressChar_text (a : IpAddress) : ∀ c ∈ a.text.toList, IsAddressChar c := by
  have hdouble : ∀ c ∈ "::".toList, IsAddressChar c := by simp [IsAddressChar]
  have hmapped : ∀ c ∈ "::ffff:".toList, IsAddressChar c := by simp [IsAddressChar]
  cases a with
  | v4 octets => exact isAddressChar_octets octets
  | v6 groups =>
    simp only [text]
    split
    · rw [String.toList_append, List.forall_mem_append]
      exact ⟨hmapped, isAddressChar_octets _⟩
    · split
      · rw [String.toList_append, String.toList_append, List.forall_mem_append,
          List.forall_mem_append]
        exact ⟨⟨isAddressChar_hexGroups _, hdouble⟩, isAddressChar_hexGroups _⟩
      · exact isAddressChar_hexGroups groups

end TenantGateway.Net
