import TenantGateway.Text.Blank
import TenantGateway.Text.Split

/-! Texts taken apart at a character and put together again, and texts without their tails and blanks. -/
namespace TenantGateway.Text

/-- What is taken apart at the first `c`. -/
def joinAt (c : Char) (head : List Char) (rest : Option (List Char)) : List Char :=
  head ++ rest.elim [] (c :: ·)

section First

variable {c : Char} {head cs : List Char} {rest : Option (List Char)}

/-- What was joined at a character is split there, if it does not come before. -/
theorem splitAtFirst_joinAt (h : c ∉ head) (rest : Option (List Char)) :
    splitAtFirst c (joinAt c head rest) = (head, rest) := by
  have hhead : ∀ d ∈ head, (d != c) = true := fun d hd => bne_iff_ne.mpr fun he => h (he ▸ hd)
  have htake : (joinAt c head rest).takeWhile (· != c) = head := by
    rw [joinAt, List.takeWhile_append_of_pos hhead]
    cases rest with
    | none => exact List.append_nil head
    | some cs => rw [Option.elim_some, List.takeWhile_cons, bne_self_eq_false,
        if_neg Bool.false_ne_true, List.append_nil]
  rw [splitAtFirst]
  simp only [htake]
  rw [joinAt, List.drop_left]
  cases rest <;> rfl

/-- Every text is put together so, in one way only. -/
theorem exists_joinAt (c : Char) (cs : List Char) :
    ∃ head rest, cs = joinAt c head rest ∧ c ∉ head := by
  induction cs with
  | nil => exact ⟨[], none, rfl, List.not_mem_nil⟩
  | cons d cs ih =>
    by_cases hd : c = d
    · subst hd
      exact ⟨[], some cs, rfl, List.not_mem_nil⟩
    · obtain ⟨head, rest, rfl, hhead⟩ := ih
      refine ⟨d :: head, rest, rfl, ?_⟩
      rw [List.mem_cons, not_or]
      exact ⟨hd, hhead⟩

/-- A joined text tells its parts. -/
theorem joinAt_inj {a b : List Char} {r s : Option (List Char)} (ha : c ∉ a) (hb : c ∉ b) :
    joinAt c a r = joinAt c b s ↔ a = b ∧ r = s := by
  constructor
  · intro h
    have hsplit := congrArg (splitAtFirst c) h
    rwa [splitAtFirst_joinAt ha, splitAtFirst_joinAt hb, Prod.mk.injEq] at hsplit
  · rintro ⟨rfl, rfl⟩
    rfl

/-- The characters of a joined text. -/
theorem mem_joinAt {d : Char} :
    d ∈ joinAt c head rest ↔ d ∈ head ∨ ∃ cs ∈ rest, d = c ∨ d ∈ cs := by
  rw [joinAt, List.mem_append]
  cases rest with
  | none => simp
  | some cs => simp

/-- A text is joined at the first of some character that it holds. -/
theorem exists_joinAt_of_mem {c : Char} {cs : List Char} (h : c ∈ cs) :
    ∃ head rest, cs = joinAt c head (some rest) ∧ c ∉ head := by
  obtain ⟨head, rest, rfl, hhead⟩ := exists_joinAt c cs
  rcases mem_joinAt.mp h with hmem | ⟨rest, rfl, -⟩
  · exact absurd hmem hhead
  · exact ⟨head, rest, rfl, hhead⟩

/-- The part in front is what comes before the character. -/
theorem takeWhile_joinAt (h : c ∉ head) (rest : Option (List Char)) :
    (joinAt c head rest).takeWhile (· != c) = head := by
  have hsplit := congrArg Prod.fst (splitAtFirst_joinAt h rest)
  rw [splitAtFirst] at hsplit
  split at hsplit <;> exact hsplit

end First

section Each

variable {c : Char} {cs : List Char}

/-- A split text has a piece at least. -/
theorem splitAtEach_ne_nil (c : Char) (cs : List Char) : splitAtEach c cs ≠ [] := by
  cases cs with
  | nil => exact List.cons_ne_nil _ _
  | cons d cs =>
    rw [splitAtEach]
    split
    · exact List.cons_ne_nil _ _
    · split <;> exact List.cons_ne_nil _ _

private theorem splitAtEach_cons_self (c : Char) (cs : List Char) :
    splitAtEach c (c :: cs) = [] :: splitAtEach c cs :=
  if_pos rfl

/-- Another character in front belongs to the first piece. -/
theorem splitAtEach_cons_of_ne {d : Char} (h : d ≠ c) (cs : List Char) :
    splitAtEach c (d :: cs) = (splitAtEach c cs).modifyHead (d :: ·) := by
  rw [splitAtEach, if_neg h]
  cases hcs : splitAtEach c cs with
  | nil => exact absurd hcs (splitAtEach_ne_nil c cs)
  | cons first others => rfl

/-- An occurrence of the character separates what stands before it from what follows. -/
theorem splitAtEach_append_cons (c : Char) (a b : List Char) :
    splitAtEach c (a ++ c :: b) = splitAtEach c a ++ splitAtEach c b := by
  induction a with
  | nil =>
    rw [List.nil_append, splitAtEach_cons_self]
    rfl
  | cons d a ih =>
    by_cases hd : d = c
    · subst hd
      rw [List.cons_append, splitAtEach_cons_self, splitAtEach_cons_self, ih, List.cons_append]
    · rw [List.cons_append, splitAtEach_cons_of_ne hd, splitAtEach_cons_of_ne hd, ih]
      cases ha : splitAtEach c a with
      | nil => exact absurd ha (splitAtEach_ne_nil c a)
      | cons first others => rfl

/-- A text without the character is one piece. -/
theorem splitAtEach_of_not_mem (h : c ∉ cs) : splitAtEach c cs = [cs] := by
  induction cs with
  | nil => rfl
  | cons d cs ih =>
    rw [List.mem_cons, not_or] at h
    obtain ⟨hd, hcs⟩ := h
    rw [splitAtEach_cons_of_ne (Ne.symm hd), ih hcs]
    rfl

/-- Splitting undoes joining, where no piece holds the character. -/
theorem splitAtEach_intercalate {pieces : List (List Char)} (hne : pieces ≠ [])
    (h : ∀ piece ∈ pieces, c ∉ piece) : splitAtEach c ([c].intercalate pieces) = pieces := by
  induction pieces with
  | nil => exact absurd rfl hne
  | cons piece pieces ih =>
    rw [List.forall_mem_cons] at h
    cases pieces with
    | nil => rw [List.intercalate_singleton, splitAtEach_of_not_mem h.1]
    | cons next pieces =>
      rw [List.intercalate_cons_cons, List.append_assoc, List.singleton_append,
        splitAtEach_append_cons, splitAtEach_of_not_mem h.1, ih (List.cons_ne_nil _ _) h.2]
      rfl

/-- What stands between two separators, or between one and an end of the text. -/
def IsPiece (c : Char) (piece cs : List Char) : Prop :=
  c ∉ piece ∧ ∃ before after, cs = before ++ piece ++ after ∧
    (before = [] ∨ ∃ head, before = head ++ [c]) ∧ (after = [] ∨ ∃ rest, after = c :: rest)

private theorem isPiece_of_mem {piece : List Char} (n : Nat) (hn : cs.length ≤ n)
    (h : piece ∈ splitAtEach c cs) : IsPiece c piece cs := by
  induction n generalizing cs with
  | zero =>
    obtain rfl := List.eq_nil_of_length_eq_zero (Nat.le_zero.mp hn)
    obtain rfl := List.mem_singleton.mp h
    exact ⟨List.not_mem_nil, [], [], rfl, .inl rfl, .inl rfl⟩
  | succ n ih =>
    obtain ⟨head, rest, rfl, hhead⟩ := exists_joinAt c cs
    cases rest with
    | none =>
      rw [joinAt, Option.elim_none, List.append_nil, splitAtEach_of_not_mem hhead,
        List.mem_singleton] at h
      subst h
      exact ⟨hhead, [], [], rfl, .inl rfl, .inl rfl⟩
    | some rest =>
      rw [joinAt, Option.elim_some] at h hn ⊢
      rw [splitAtEach_append_cons, splitAtEach_of_not_mem hhead, List.singleton_append,
        List.mem_cons] at h
      rcases h with rfl | h
      · exact ⟨hhead, [], c :: rest, rfl, .inl rfl, .inr ⟨rest, rfl⟩⟩
      · rw [List.length_append, List.length_cons] at hn
        obtain ⟨hpiece, before, after, rfl, hbefore, hafter⟩ := ih (by omega) h
        refine ⟨hpiece, head ++ c :: before, after, by simp, .inr ?_, hafter⟩
        rcases hbefore with rfl | ⟨inner, rfl⟩
        · exact ⟨head, rfl⟩
        · exact ⟨head ++ c :: inner, by simp⟩

/-- The pieces are what stands between the separators. -/
theorem mem_splitAtEach_iff {piece : List Char} :
    piece ∈ splitAtEach c cs ↔ IsPiece c piece cs := by
  refine ⟨isPiece_of_mem cs.length (Nat.le_refl _), ?_⟩
  rintro ⟨hpiece, before, after, rfl, hbefore, hafter⟩
  have hfront : piece ∈ splitAtEach c (piece ++ after) := by
    rcases hafter with rfl | ⟨rest, rfl⟩
    · rw [List.append_nil, splitAtEach_of_not_mem hpiece]
      exact List.mem_singleton_self piece
    · rw [splitAtEach_append_cons, splitAtEach_of_not_mem hpiece]
      exact List.mem_append_left _ (List.mem_singleton_self piece)
  rcases hbefore with rfl | ⟨head, rfl⟩
  · exact hfront
  · rw [List.append_assoc, List.append_assoc, List.singleton_append, splitAtEach_append_cons]
    exact List.mem_append_right _ hfront

end Each

/-- A text without its tail is a beginning of it. -/
theorem dropTailWhile_prefix (p : Char → Bool) (cs : List Char) : dropTailWhile p cs <+: cs := by
  have hsuffix := List.dropWhile_suffix (l := cs.reverse) p
  rwa [← List.reverse_prefix, List.reverse_reverse] at hsuffix

/-- Nothing is dropped beyond a text whose last character stays. -/
theorem dropTailWhile_append {p : Char → Bool} {cs : List Char} {c : Char} (hc : p c = false)
    (more : List Char) :
    dropTailWhile p (cs ++ [c] ++ more) = cs ++ [c] ++ dropTailWhile p more := by
  rw [dropTailWhile, List.reverse_append, List.dropWhile_append, dropTailWhile]
  split
  next hempty =>
    rw [List.isEmpty_iff.mp hempty, List.reverse_append, List.reverse_singleton,
      List.singleton_append, List.dropWhile_cons_of_neg (by rw [hc]; decide), List.reverse_cons,
      List.reverse_reverse, List.reverse_nil, List.append_nil]
  next =>
    rw [List.reverse_append, List.reverse_reverse]

/-- A tail that stops short of the joint is dropped from the second part. -/
theorem dropTailWhile_joinAt_some {p : Char → Bool} {c : Char} (hc : p c = false)
    (head rest : List Char) :
    dropTailWhile p (joinAt c head (some rest)) = joinAt c head (some (dropTailWhile p rest)) := by
  have hjoin (cs : List Char) : joinAt c head (some cs) = head ++ [c] ++ cs := by
    rw [List.append_assoc]
    rfl
  rw [hjoin, hjoin, dropTailWhile_append hc]

end TenantGateway.Text
