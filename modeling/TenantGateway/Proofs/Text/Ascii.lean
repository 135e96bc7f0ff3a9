import TenantGateway.Text.Ascii
import Mathlib

/-! Texts that differ only in the case of their letters. -/
namespace TenantGateway.Text

/-- The text `ds` is `cs` with any of its letters in upper case. -/
def Recased (cs ds : List Char) : Prop := List.Forall₂ (fun c d => d = c ∨ d = c.toUpper) cs ds

private theorem toLower_eq_iff {c d : Char} (hc : c.toLower = c) :
    d.toLower = c ↔ d = c ∨ d = c.toUpper := by
  constructor
  · rintro rfl
    by_cases hd : d.isUpper = true
    · right
      rw [Char.toUpper_toLower_eq_toUpper,
        Char.toUpper_eq_of_not_isLower (Char.not_isLower_of_isUpper hd)]
    · left
      rw [Char.toLower_eq_of_not_isUpper hd]
  · rintro (rfl | rfl)
    · exact hc
    · rw [Char.toLower_toUpper_eq_toLower, hc]

/-- A text in lower case is what all its renderings have in common. -/
theorem map_toLower_eq_iff {cs ds : List Char} (hcs : ∀ c ∈ cs, c.toLower = c) :
    ds.map Char.toLower = cs ↔ Recased cs ds := by
  induction cs generalizing ds with
  | nil => rw [List.map_eq_nil_iff, Recased, List.forall₂_nil_left_iff]
  | cons c cs ih =>
    rw [List.forall_mem_cons] at hcs
    cases ds with
    | nil => exact ⟨fun h => (nomatch h), fun h => (nomatch h)⟩
    | cons d ds =>
      rw [List.map_cons, List.cons.injEq, toLower_eq_iff hcs.1, ih hcs.2, Recased, Recased,
        List.forall₂_cons]

/-- A text in capitals is the text but for the case. -/
theorem Recased.toUpper (cs : List Char) : Recased cs (cs.map Char.toUpper) :=
  List.forall₂_map_right_iff.mpr (List.forall₂_same.mpr fun _ _ => .inr rfl)

/-- What holds of the letters in either case holds of every rendering. -/
theorem Recased.forall_mem {cs ds : List Char} {p : Char → Prop} (h : Recased cs ds)
    (hp : ∀ c ∈ cs, p c ∧ p c.toUpper) : ∀ d ∈ ds, p d := by
  induction h with
  | nil => exact fun _ hd => nomatch hd
  | cons hcase _ ih =>
    rw [List.forall_mem_cons] at hp ⊢
    obtain ⟨⟨hlower, hupper⟩, hrest⟩ := hp
    refine ⟨?_, ih hrest⟩
    rcases hcase with rfl | rfl
    · exact hlower
    · exact hupper

end TenantGateway.Text
