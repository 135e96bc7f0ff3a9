import TenantGateway.Text.Blank
import Mathlib.Data.List.TakeWhile

/-! White space around a text. Every text is its trimmed part between two stretches of white space,
and nothing else without white space at its ends can be found in it so. -/
namespace TenantGateway.Text

/-- White space of any length. -/
def Blank (cs : List Char) : Prop := ∀ c ∈ cs, isBlank c = true

/-- No white space at either end. -/
structure Trimmed (cs : List Char) : Prop where
  head : ∀ c ∈ cs.head?, isBlank c = false
  last : ∀ c ∈ cs.getLast?, isBlank c = false

/-- The text is `body` with white space around it. -/
def Pads (body cs : List Char) : Prop :=
  ∃ before after, Blank before ∧ Blank after ∧ cs = before ++ body ++ after

section

variable {cs body before after : List Char}

theorem Blank.nil : Blank [] := fun _ h => nomatch h

/-- Two blank texts make a blank one. -/
theorem Blank.append (hbefore : Blank before) (hafter : Blank after) : Blank (before ++ after) :=
  List.forall_mem_append.mpr ⟨hbefore, hafter⟩

private theorem Blank.reverse (h : Blank cs) : Blank cs.reverse :=
  fun c hc => h c (List.mem_reverse.mp hc)

/-- A blank text holds nothing but white space. -/
theorem Blank.not_mem {c : Char} (h : Blank cs) (hc : isBlank c = false) : c ∉ cs := by
  intro hmem
  rw [h c hmem] at hc
  contradiction

private theorem Blank.dropWhile_append (h : Blank before)
    (hhead : ∀ c ∈ cs.head?, isBlank c = false) :
    (before ++ cs).dropWhile isBlank = cs := by
  rw [List.dropWhile_append_of_pos h]
  cases cs with
  | nil => rfl
  | cons c cs => rw [List.dropWhile_cons_of_neg (by rw [hhead c rfl]; exact Bool.false_ne_true)]

/-- A text without white space is trimmed. -/
theorem Trimmed.of_forall_mem (h : ∀ c ∈ cs, isBlank c = false) : Trimmed cs where
  head c hc := h c (List.mem_of_mem_head? hc)
  last c hc := h c (List.mem_of_getLast? hc)

theorem Pads.refl (cs : List Char) : Pads cs cs :=
  ⟨[], [], Blank.nil, Blank.nil, (List.append_nil _).symm⟩

private theorem trimChars_append (hbefore : Blank before) (hafter : Blank after)
    (hbody : Trimmed body) (hne : body ≠ []) : trimChars (before ++ body ++ after) = body := by
  have hhead : ∀ c ∈ (body ++ after).head?, isBlank c = false := by
    obtain ⟨c, cs, rfl⟩ := List.exists_cons_of_ne_nil hne
    exact hbody.head
  have hlast : ∀ c ∈ body.reverse.head?, isBlank c = false := by
    rw [List.head?_reverse]
    exact hbody.last
  rw [trimChars, List.append_assoc, hbefore.dropWhile_append hhead, dropTailWhile,
    List.reverse_append, hafter.reverse.dropWhile_append hlast, List.reverse_reverse]

/-- Nothing is left of a blank text. -/
theorem trimChars_of_blank (h : Blank cs) : trimChars cs = [] := by
  rw [trimChars, List.dropWhile_eq_nil_iff.mpr h]
  rfl

/-- A trimmed text is found again in its padding. -/
theorem trimChars_of_pads (hpads : Pads body cs) (hbody : Trimmed body) : trimChars cs = body := by
  obtain ⟨before, after, hbefore, hafter, rfl⟩ := hpads
  by_cases hne : body = []
  · subst hne
    rw [List.append_nil]
    exact trimChars_of_blank (hbefore.append hafter)
  · exact trimChars_append hbefore hafter hbody hne

/-- A text without white space is left as it is. -/
theorem trimChars_of_not_blank (h : ∀ c ∈ cs, isBlank c = false) : trimChars cs = cs :=
  trimChars_of_pads (.refl cs) (.of_forall_mem h)

/-- White space in front makes no difference. -/
theorem trimChars_cons_of_blank {c : Char} (h : isBlank c = true) (cs : List Char) :
    trimChars (c :: cs) = trimChars cs := by
  rw [trimChars, List.dropWhile_cons_of_pos h, trimChars]

private theorem exists_dropWhile (cs : List Char) :
    ∃ before, Blank before ∧ cs = before ++ cs.dropWhile isBlank :=
  ⟨cs.takeWhile isBlank, fun _ h => List.mem_takeWhile_imp h,
    (List.takeWhile_append_dropWhile ..).symm⟩

private theorem head?_dropWhile (cs : List Char) :
    ∀ c ∈ (cs.dropWhile isBlank).head?, isBlank c = false := by
  intro c hc
  have hnot := List.head?_dropWhile_not isBlank cs
  rw [Option.mem_def.mp hc] at hnot
  exact hnot

/-- A text is what is left of it in some padding. -/
theorem pads_trimChars (cs : List Char) : Pads (trimChars cs) cs := by
  obtain ⟨before, hbefore, hcs⟩ := exists_dropWhile cs
  obtain ⟨after, hafter, hrest⟩ := exists_dropWhile (cs.dropWhile isBlank).reverse
  refine ⟨before, after.reverse, hbefore, hafter.reverse, ?_⟩
  rw [trimChars, dropTailWhile, List.append_assoc, ← List.reverse_append, ← hrest,
    List.reverse_reverse, ← hcs]

/-- What is left of a text is trimmed. -/
theorem trimmed_trimChars (cs : List Char) : Trimmed (trimChars cs) where
  head := by
    intro c hc
    obtain ⟨after, -, hrest⟩ := exists_dropWhile (cs.dropWhile isBlank).reverse
    have hsplit := congrArg List.reverse hrest
    rw [List.reverse_reverse, List.reverse_append] at hsplit
    change cs.dropWhile isBlank = trimChars cs ++ after.reverse at hsplit
    refine head?_dropWhile cs c ?_
    rw [hsplit, Option.mem_def, List.head?_append, Option.mem_def.mp hc]
    rfl
  last := by
    intro c hc
    rw [trimChars, dropTailWhile, List.getLast?_reverse] at hc
    exact head?_dropWhile _ c hc

private theorem trimChars_eq_iff : trimChars cs = body ↔ Pads body cs ∧ Trimmed body := by
  constructor
  · rintro rfl
    exact ⟨pads_trimChars cs, trimmed_trimChars cs⟩
  · exact fun h => trimChars_of_pads h.1 h.2

/-- Trimming gives the one trimmed text that the given text pads. -/
theorem trim_eq_iff {s t : String} : trim s = t ↔ Pads t.toList s.toList ∧ Trimmed t.toList := by
  rw [← trimChars_eq_iff, trim, ← String.toList_inj, String.toList_ofList]

/-- White space around a text is of no account. -/
theorem trimChars_surround (hbefore : Blank before) (hafter : Blank after) (cs : List Char) :
    trimChars (before ++ cs ++ after) = trimChars cs := by
  obtain ⟨inner, outer, hinner, houter, hcs⟩ := pads_trimChars cs
  refine trimChars_of_pads ⟨before ++ inner, outer ++ after, hbefore.append hinner,
    houter.append hafter, ?_⟩ (trimmed_trimChars cs)
  calc before ++ cs ++ after
    _ = before ++ (inner ++ trimChars cs ++ outer) ++ after := by rw [← hcs]
    _ = _ := by simp only [List.append_assoc]

/-- Only of a blank text nothing is left. -/
theorem trimChars_eq_nil_iff : trimChars cs = [] ↔ Blank cs := by
  refine ⟨fun h => ?_, trimChars_of_blank⟩
  obtain ⟨before, after, hbefore, hafter, hcs⟩ := pads_trimChars cs
  rw [h, List.append_nil] at hcs
  exact hcs ▸ hbefore.append hafter

end

end TenantGateway.Text
