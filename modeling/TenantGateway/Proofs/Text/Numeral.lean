import TenantGateway.Text.Numeral
import Mathlib.Algebra.Group.Nat.Defs

/-! Written numerals can be read back, so different numbers have different texts. A run of digits
ends where the first character comes that is none. Signed numerals hold digits and at most one minus
sign, and never a colon. The reader takes the numerals up to its bound and nothing else. -/
namespace TenantGateway.Text

/-- Different numbers have different digits. -/
theorem toDigits_injective {m n : Nat} (h : Nat.toDigits 10 m = Nat.toDigits 10 n) : m = n := by
  have hv := congrArg (fun ds => Nat.ofDigitChars 10 ds 0) h
  simpa only [Nat.ofDigitChars_ten_toDigits] using hv

/-- The digits of a number are digits. -/
theorem isDigit_of_mem_toDigits {c : Char} {n : Nat} (h : c ∈ Nat.toDigits 10 n) : c.isDigit :=
  Nat.isDigit_of_mem_toDigits (by decide) (by decide) h

/-- Leading zeros do not confuse numbers. -/
theorem paddedDigits_injective {width m n : Nat} (h : paddedDigits width m = paddedDigits width n) :
    m = n := by
  have hv := congrArg (fun ds => Nat.ofDigitChars 10 ds 0) h
  simpa only [paddedDigits, Nat.ofDigitChars_append, Nat.ofDigitChars_replicate_zero, Nat.mul_zero,
    Nat.ofDigitChars_ten_toDigits] using hv

/-- Leading zeros are digits, too. -/
theorem isDigit_of_mem_paddedDigits {c : Char} {width n : Nat} (h : c ∈ paddedDigits width n) :
    c.isDigit := by
  rcases List.mem_append.mp h with h | h
  · rw [List.eq_of_mem_replicate h]
    decide
  · exact isDigit_of_mem_toDigits h

private theorem digitsValue_eq_ofDigitChars (cs : List Char) :
    digitsValue cs = Nat.ofDigitChars 10 cs 0 := by
  simp only [digitsValue, Nat.ofDigitChars, Nat.mul_comm]
  rfl

/-- The digits of a number are read as the number. -/
@[simp] theorem digitsValue_toDigits (n : Nat) : digitsValue (Nat.toDigits 10 n) = n := by
  rw [digitsValue_eq_ofDigitChars, Nat.ofDigitChars_ten_toDigits]

/-- Leading zeros make no difference to it. -/
@[simp] theorem digitsValue_paddedDigits (width n : Nat) :
    digitsValue (paddedDigits width n) = n := by
  rw [digitsValue_eq_ofDigitChars, paddedDigits, Nat.ofDigitChars_append,
    Nat.ofDigitChars_replicate_zero, Nat.mul_zero, Nat.ofDigitChars_ten_toDigits]

/-- There is always a digit. -/
theorem paddedDigits_ne_nil (width n : Nat) : paddedDigits width n ≠ [] :=
  List.append_ne_nil_of_right_ne_nil _ Nat.toDigits_ne_nil

/-- Only zero is written with a zero in front. -/
theorem head?_toDigits_ne {n : Nat} (hn : n ≠ 0) : (Nat.toDigits 10 n).head? ≠ some '0' := by
  induction n using Nat.strongRecOn with
  | ind n ih =>
    by_cases hlt : n < 10
    · rw [Nat.toDigits_of_lt_base hlt, List.head?_cons, ne_eq, Option.some.injEq,
        Nat.digitChar_eq_zero]
      exact hn
    · have hhead := ih (n / 10) (by omega) (by omega)
      rw [Nat.toDigits_of_base_le (by decide) (Nat.not_lt.mp hlt)]
      cases hdigits : Nat.toDigits 10 (n / 10) with
      | nil => exact absurd hdigits Nat.toDigits_ne_nil
      | cons c cs => rwa [hdigits] at hhead

/-- The digits of a number without the last one. -/
def leadingDigits (n : Nat) : List Char := if n / 10 = 0 then [] else Nat.toDigits 10 (n / 10)

/-- The last digit is the remainder by ten. -/
theorem toDigits_eq_append (n : Nat) :
    Nat.toDigits 10 n = leadingDigits n ++ [Nat.digitChar (n % 10)] := by
  by_cases hn : n < 10
  · rw [leadingDigits, if_pos (Nat.div_eq_of_lt hn), Nat.toDigits_of_lt_base hn,
      Nat.mod_eq_of_lt hn, List.nil_append]
  · rw [leadingDigits, if_neg (by omega), Nat.toDigits_of_base_le (by decide) (Nat.not_lt.mp hn)]

/-- A text that does not go on with a digit. -/
def EndsDigits (rest : List Char) : Prop := ∀ c ∈ rest.head?, c.isDigit = false

/-- A run of digits ends where another character stands. -/
theorem takeWhile_digits {digits rest : List Char} (hdigits : ∀ c ∈ digits, c.isDigit = true)
    (hrest : EndsDigits rest) : (digits ++ rest).takeWhile Char.isDigit = digits := by
  rw [List.takeWhile_append_of_pos hdigits]
  cases rest with
  | nil => exact List.append_nil _
  | cons c rest => rw [List.takeWhile_cons, hrest c rfl, if_neg Bool.false_ne_true, List.append_nil]

/-- Behind a run of digits the rest is left. -/
theorem dropWhile_digits {digits rest : List Char} (hdigits : ∀ c ∈ digits, c.isDigit = true)
    (hrest : EndsDigits rest) : (digits ++ rest).dropWhile Char.isDigit = rest := by
  rw [List.dropWhile_append_of_pos hdigits]
  cases rest with
  | nil => rfl
  | cons c rest => rw [List.dropWhile_cons, hrest c rfl, if_neg Bool.false_ne_true]

/-- A number below the power of ten fills its width exactly. -/
theorem length_paddedDigits {width n : Nat} (hw : 0 < width) (h : n < 10 ^ width) :
    (paddedDigits width n).length = width := by
  have hd := (Nat.length_toDigits_le_iff (b := 10) (by decide) hw).mpr h
  simp only [paddedDigits, List.length_append, List.length_replicate]
  omega

/-- An integer is written as the digits of its amount, with a sign in front if it is negative. -/
theorem toString_int_toList (n : Int) :
    (toString n).toList = if 0 ≤ n then Nat.toDigits 10 n.toNat else '-' :: Nat.toDigits 10 n.natAbs := by
  cases n with
  | ofNat n => simp [toString, Int.repr, Nat.toList_repr]
  | negSucc n => simp [toString, Int.repr, Nat.toList_repr, String.toList_append]

/-- Different integers are written differently. -/
theorem toString_int_injective {m n : Int} (h : toString m = toString n) : m = n := by
  have hl := congrArg String.toList h
  rw [toString_int_toList, toString_int_toList] at hl
  have dash (k : Nat) (l : List Char) : Nat.toDigits 10 k ≠ '-' :: l := by
    intro he
    have hd := isDigit_of_mem_toDigits (n := k) (c := '-') (by rw [he]; exact List.mem_cons_self)
    exact absurd hd (by decide)
  split at hl <;> split at hl
  · have := toDigits_injective hl
    omega
  · exact absurd hl (dash _ _)
  · exact absurd hl.symm (dash _ _)
  · have := toDigits_injective (List.tail_eq_of_cons_eq hl)
    omega

/-- A written integer holds no colon. -/
theorem colon_not_mem_toString_int (n : Int) : ':' ∉ (toString n).toList := by
  intro h
  rw [toString_int_toList] at h
  have colon (k : Nat) : ':' ∉ Nat.toDigits 10 k := by
    intro hc
    exact absurd (isDigit_of_mem_toDigits hc) (by decide)
  split at h
  · exact colon _ h
  · rcases List.mem_cons.mp h with h | h
    · exact absurd h (by decide)
    · exact colon _ h

/-- The text is a number's digits, perhaps behind a plus sign. -/
def Spells (cs : List Char) (n : Nat) : Prop :=
  ∃ digits, (cs = digits ∨ cs = '+' :: digits) ∧ digits ≠ [] ∧
    (∀ c ∈ digits, c.isDigit = true) ∧ digitsValue digits = n

private theorem le_foldl_digits (cs : List Char) (value : Nat) :
    value ≤ cs.foldl (fun value c => value * 10 + (c.toNat - 48)) value := by
  induction cs generalizing value with
  | nil => exact Nat.le_refl _
  | cons c cs ih =>
    have h := ih (value * 10 + (c.toNat - 48))
    rw [List.foldl_cons]
    omega

private theorem readDigits_eq_ok_iff {bound value n : Nat} {cs : List Char} (hv : value ≤ bound) :
    readDigits bound value cs = .ok n ↔
      (∀ c ∈ cs, c.isDigit = true) ∧
        cs.foldl (fun value c => value * 10 + (c.toNat - 48)) value = n ∧ n ≤ bound := by
  induction cs generalizing value with
  | nil =>
    rw [readDigits, Except.ok.injEq, List.foldl_nil]
    constructor
    · rintro rfl
      exact ⟨fun _ hc => absurd hc List.not_mem_nil, rfl, hv⟩
    · exact fun h => h.2.1
  | cons c cs ih =>
    rw [readDigits, digitValue?, List.forall_mem_cons, List.foldl_cons]
    by_cases hc : c.isDigit = true
    · rw [if_pos hc]
      by_cases hlt : bound < value * 10 + (c.toNat - 48)
      · -- a value past the bound never comes back under it
        have hle := le_foldl_digits cs (value * 10 + (c.toNat - 48))
        simp only [if_pos hlt, reduceCtorEq, false_iff]
        rintro ⟨-, rfl, hn⟩
        omega
      · simp only [if_neg hlt, ih (Nat.not_lt.mp hlt), hc, true_and]
    · simp only [hc, Bool.false_eq_true, if_false, reduceCtorEq, false_and]

/-- Just the numbers up to the bound are read. -/
theorem readUnsigned_eq_ok_iff {bound n : Nat} {s : String} :
    readUnsigned bound s = .ok n ↔ Spells s.toList n ∧ n ≤ bound := by
  have plus {digits : List Char} (h : ∀ c ∈ '+' :: digits, c.isDigit = true) : False :=
    absurd (h '+' List.mem_cons_self) (by decide)
  rw [readUnsigned]
  split
  next hs =>
    rw [hs]
    simp only [reduceCtorEq, false_iff]
    rintro ⟨⟨digits, rfl | h, hne, -⟩, -⟩
    · exact hne rfl
    · exact absurd h (List.cons_ne_nil _ _).symm
  next hs =>
    rw [hs]
    simp only [reduceCtorEq, false_iff]
    rintro ⟨⟨digits, rfl | h, hne, hd, -⟩, -⟩
    · exact plus hd
    · exact hne (List.tail_eq_of_cons_eq h).symm
  next rest hne hs =>
    rw [hs, readDigits_eq_ok_iff (Nat.zero_le _)]
    constructor
    · rintro ⟨hd, hn, hle⟩
      exact ⟨⟨rest, .inr rfl, hne, hd, hn⟩, hle⟩
    · rintro ⟨⟨digits, rfl | h, -, hd, hn⟩, hle⟩
      · exact (plus hd).elim
      · obtain rfl := List.tail_eq_of_cons_eq h
        exact ⟨hd, hn, hle⟩
  next hnil _ hplus =>
    rw [readDigits_eq_ok_iff (Nat.zero_le _)]
    constructor
    · rintro ⟨hd, hn, hle⟩
      exact ⟨⟨_, .inl rfl, hnil, hd, hn⟩, hle⟩
    · rintro ⟨⟨digits, rfl | h, -, hd, hn⟩, hle⟩
      · exact ⟨hd, hn, hle⟩
      · exact absurd h (hplus digits)

end TenantGateway.Text
