import TenantGateway.Calendar.Timestamp
import TenantGateway.Proofs.Text.Numeral

/-! Day numbers and dates determine each other, before and after year zero. So does the compact text
of a date, although years outside four digits are written wider and with a sign. -/
namespace TenantGateway.Calendar.Date
open Text

private theorem yearOfEra_in_century {c d y : Int} (hlo : 36524 * c ≤ d)
    (hhi : d < 36524 * c + 36524) (hc : 0 ≤ c ∧ c ≤ 3) (hy : y = (d - d / 1460 + c) / 365) :
    100 * c ≤ y ∧ y < 100 * c + 100 ∧
      365 * y + y / 4 - c ≤ d ∧ d ≤ 365 * y + y / 4 - c + 365 := by
  have hq : d / 1460 = 25 * c + (d - 36524 * c + 24 * c) / 1460 := by omega
  rw [hq] at hy
  obtain ⟨r, rfl⟩ : ∃ r, d = 36524 * c + r := ⟨d - 36524 * c, by omega⟩
  have hcases : c = 0 ∨ c = 1 ∨ c = 2 ∨ c = 3 := by omega
  rcases hcases with rfl | rfl | rfl | rfl
  all_goals
    refine ⟨by omega, by omega, ?_, ?_⟩
    · omega
    · omega

private theorem yearOfEra_bounds {d y : Int} (hlo : 0 ≤ d) (hhi : d < 146097)
    (hy : y = (d - d / 1460 + d / 36524 - d / 146096) / 365) :
    0 ≤ y ∧ y ≤ 399 ∧ 365 * y + y / 4 - y / 100 ≤ d ∧ d ≤ 365 * y + y / 4 - y / 100 + 365 := by
  by_cases hlast : d = 146096
  · subst hlast
    have hend : y = 399 := by omega
    subst hend
    decide
  · have hz : d / 146096 = 0 := by omega
    have hc : 0 ≤ d / 36524 ∧ d / 36524 ≤ 3 := by omega
    rw [hz, Int.sub_zero] at hy
    obtain ⟨h1, h2, h3, h4⟩ := yearOfEra_in_century (by omega) (by omega) hc hy
    have hp : y / 100 = d / 36524 := by omega
    rw [hp]
    exact ⟨by omega, by omega, h3, h4⟩

private theorem leap_in_century {c d y : Int} (hlo : 36524 * c ≤ d)
    (hhi : d < 36524 * c + 36524) (hc : 0 ≤ c ∧ c ≤ 3) (hy : y = (d - d / 1460 + c) / 365)
    (hlong : 365 * y + y / 4 - c + 365 ≤ d) : (y + 1) % 4 = 0 ∧ (y + 1) % 100 ≠ 0 := by
  obtain ⟨q, s, hs0, hs1, rfl⟩ : ∃ q s, 0 ≤ s ∧ s < 1460 ∧ d = 36500 * c + 1460 * q + s :=
    ⟨(d - 36500 * c) / 1460, (d - 36500 * c) % 1460, by omega, by omega, by omega⟩
  have hq : (36500 * c + 1460 * q + s) / 1460 = 25 * c + q := by omega
  obtain ⟨w, hw⟩ : ∃ w, w = (s - q - 24 * c) / 365 := ⟨_, rfl⟩
  have hyear : y = 100 * c + 4 * q + w := by
    rw [hq] at hy
    omega
  have hlast : w = -1 := by omega
  subst hlast
  omega

private theorem leap_of_long {d y : Int} (hlo : 0 ≤ d) (hhi : d < 146097)
    (hy : y = (d - d / 1460 + d / 36524 - d / 146096) / 365)
    (hlong : 365 * y + y / 4 - y / 100 + 365 ≤ d) :
    (y + 1) % 4 = 0 ∧ ((y + 1) % 100 ≠ 0 ∨ (y + 1) % 400 = 0) := by
  -- A year reckoned from March has a 366th day only before the end of a leap February.
  by_cases hlast : d = 146096
  · subst hlast
    have hend : y = 399 := by omega
    subst hend
    decide
  · have hz : d / 146096 = 0 := by omega
    have hc : 0 ≤ d / 36524 ∧ d / 36524 ≤ 3 := by omega
    rw [hz, Int.sub_zero] at hy
    have hcentury := yearOfEra_in_century (by omega) (by omega) hc hy
    have hp : y / 100 = d / 36524 := by omega
    rw [hp] at hlong
    obtain ⟨hfour, hhundred⟩ := leap_in_century (by omega) (by omega) hc hy hlong
    exact ⟨hfour, .inl hhundred⟩

-- The days of a month counted from March, in a year reckoned from March.
private def daysFromMarch (year month : Int) : Int :=
  if month = 11 then if isLeapYear (year + 1) then 29 else 28
  else (153 * (month + 1) + 2) / 5 - (153 * month + 2) / 5

private theorem ofDayNumber_parts (n : Int) :
    ∃ era year month day : Int,
      n + 719468 = era * 146097 + (year * 365 + year / 4 - year / 100 +
        ((153 * month + 2) / 5 + day - 1)) ∧
      0 ≤ year ∧ year ≤ 399 ∧ 0 ≤ month ∧ month ≤ 11 ∧ 1 ≤ day ∧ day ≤ 31 ∧
      day ≤ daysFromMarch year month ∧
      ofDayNumber n =
        { year := if (if month < 10 then month + 3 else month - 9) ≤ 2 then year + era * 400 + 1
            else year + era * 400
          month := (if month < 10 then month + 3 else month - 9).toNat
          day := day.toNat } := by
  obtain ⟨h1, h2, h3, h4⟩ := yearOfEra_bounds (d := (n + 719468) % 146097)
    (Int.emod_nonneg _ (by decide)) (Int.emod_lt_of_pos _ (by decide)) rfl
  have hleap := leap_of_long (d := (n + 719468) % 146097)
    (Int.emod_nonneg _ (by decide)) (Int.emod_lt_of_pos _ (by decide)) rfl
  refine ⟨(n + 719468) / 146097, _, _, _, ?_, h1, h2, ?_, ?_, ?_, ?_, ?_, rfl⟩
  case refine_6 =>
    generalize ((n + 719468) % 146097 - (n + 719468) % 146097 / 1460 +
      (n + 719468) % 146097 / 36524 - (n + 719468) % 146097 / 146096) / 365 = y at *
    rw [daysFromMarch]
    split
    next =>
      split
      next => omega
      next hcommon =>
        simp only [isLeapYear, Bool.and_eq_true, Bool.or_eq_true, beq_iff_eq, bne_iff_ne] at hcommon
        have hshort := mt hleap hcommon
        omega
    next => omega
  all_goals
    generalize ((n + 719468) % 146097 - (n + 719468) % 146097 / 1460 +
      (n + 719468) % 146097 / 36524 - (n + 719468) % 146097 / 146096) / 365 = y at *
    omega

/-- The date of a day has that day's number. -/
theorem dayNumber_ofDayNumber (n : Int) : (ofDayNumber n).dayNumber = n := by
  obtain ⟨era, year, month, day, hn, hy0, hy1, hm0, hm1, hd0, hd1, -, he⟩ := ofDayNumber_parts n
  rw [he]
  unfold dayNumber
  by_cases hm : month < 10
  · have hmonth : ¬ (month + 3).toNat ≤ 2 := by omega
    have hlate : ¬ month + 3 ≤ 2 := by omega
    simp only [if_pos hm, if_neg hmonth, if_neg hlate]
    have hera : (year + era * 400) / 400 = era := by omega
    have hyear : (year + era * 400) % 400 = year := by omega
    have hmar : (((month + 3).toNat : Int) + 9) % 12 = month := by omega
    rw [hera, hyear, hmar]
    omega
  · have hmonth : (month - 9).toNat ≤ 2 := by omega
    have hearly : month - 9 ≤ 2 := by omega
    simp only [if_neg hm, if_pos hmonth, if_pos hearly]
    have hera : (year + era * 400 + 1 - 1) / 400 = era := by omega
    have hyear : (year + era * 400 + 1 - 1) % 400 = year := by omega
    have hmar : (((month - 9).toNat : Int) + 9) % 12 = month := by omega
    rw [hera, hyear, hmar]
    omega

/-- Different days have different dates. -/
theorem ofDayNumber_injective {m n : Int} (h : ofDayNumber m = ofDayNumber n) : m = n := by
  rw [← dayNumber_ofDayNumber m, h, dayNumber_ofDayNumber]

private theorem month_ofDayNumber_lt (n : Int) : (ofDayNumber n).month < 100 := by
  obtain ⟨_, _, month, _, _, _, _, h0, h1, _, _, _, he⟩ := ofDayNumber_parts n
  rw [he]
  dsimp only
  split <;> omega

private theorem day_ofDayNumber_lt (n : Int) : (ofDayNumber n).day < 100 := by
  obtain ⟨_, _, _, day, _, _, _, _, _, h0, h1, _, he⟩ := ofDayNumber_parts n
  rw [he]
  dsimp only
  omega

private theorem isLeapYear_add_eras (year era : Int) :
    isLeapYear (year + era * 400 + 1) = isLeapYear (year + 1) := by
  have h4 : (year + era * 400 + 1) % 4 = (year + 1) % 4 := by omega
  have h100 : (year + era * 400 + 1) % 100 = (year + 1) % 100 := by omega
  have h400 : (year + era * 400 + 1) % 400 = (year + 1) % 400 := by omega
  rw [isLeapYear, isLeapYear, h4, h100, h400]

private theorem daysFromMarch_eq (year era : Int) {month : Int} (hm0 : 0 ≤ month)
    (hm1 : month ≤ 11) :
    daysFromMarch year month =
      daysInMonth (if (if month < 10 then month + 3 else month - 9) ≤ 2 then year + era * 400 + 1
        else year + era * 400) (if month < 10 then month + 3 else month - 9).toNat := by
  have hmonths : month = 0 ∨ month = 1 ∨ month = 2 ∨ month = 3 ∨ month = 4 ∨ month = 5 ∨
      month = 6 ∨ month = 7 ∨ month = 8 ∨ month = 9 ∨ month = 10 ∨ month = 11 := by omega
  rcases hmonths with rfl | rfl | rfl | rfl | rfl | rfl | rfl | rfl | rfl | rfl | rfl | hfebruary
  case inr.inr.inr.inr.inr.inr.inr.inr.inr.inr.inr =>
    subst hfebruary
    have hleap : daysInMonth (year + era * 400 + 1) 2 =
        if isLeapYear (year + 1) then 29 else 28 := by
      rw [← isLeapYear_add_eras year era]
      rfl
    have hdays : (daysInMonth (year + era * 400 + 1) 2 : Int) =
        if isLeapYear (year + 1) then 29 else 28 := by
      rw [hleap]
      split <;> rfl
    exact hdays.symm
  all_goals rfl

/-- No month has more than 31 days. -/
theorem daysInMonth_le (year : Int) (month : Nat) : daysInMonth year month ≤ 31 := by
  unfold daysInMonth
  split
  · split
    · decide
    · decide
  all_goals decide

/-- Every day number has a date of the calendar. -/
theorem valid_ofDayNumber (n : Int) : (ofDayNumber n).Valid := by
  obtain ⟨era, year, month, day, -, -, -, hm0, hm1, hd0, -, hdays, he⟩ := ofDayNumber_parts n
  rw [daysFromMarch_eq year era hm0 hm1] at hdays
  rw [he]
  refine ⟨?_, ?_, ?_, Int.toNat_le.mpr hdays⟩
  all_goals dsimp only
  · split <;> omega
  · split <;> omega
  · omega

/-- The days that a timestamp can lie in are in the years that a date can have. -/
theorem year_ofDayNumber_bounds {n : Int} (hlo : firstSecond / 86400 ≤ n)
    (hhi : n ≤ lastSecond / 86400) :
    -262143 ≤ (ofDayNumber n).year ∧ (ofDayNumber n).year ≤ 262142 := by
  obtain ⟨era, year, month, day, hn, hy0, hy1, hm0, hm1, hd0, hd1, -, he⟩ := ofDayNumber_parts n
  rw [he]
  simp only [firstSecond, lastSecond] at hlo hhi
  by_cases hm : month < 10
  · have hlate : ¬month + 3 ≤ 2 := by omega
    simp only [if_pos hm, if_neg hlate]
    constructor
    · omega
    · omega
  · have hearly : month - 9 ≤ 2 := by omega
    simp only [if_neg hm, if_pos hearly]
    constructor
    · omega
    -- only the era in which the range ends is of any doubt
    · have hlast : era ≤ 655 := by omega
      rcases Int.lt_or_eq_of_le hlast with hearlier | rfl
      · omega
      · refine Int.not_lt.mp fun hbeyond => ?_
        have hfour : 35 ≤ year / 4 := by omega
        have hmonth : 306 ≤ (153 * month + 2) / 5 := by omega
        have hcentury : year / 100 = 1 ∨ year / 100 = 2 ∨ year / 100 = 3 := by omega
        rcases hcentury with hcentury | hcentury | hcentury
        all_goals
          rw [hcentury] at hn
          omega

private theorem ne_cons_paddedDigits {c : Char} (hc : c.isDigit = false) (width n : Nat)
    (l : List Char) : paddedDigits width n ≠ c :: l := by
  intro he
  have hm : c ∈ paddedDigits width n := by
    rw [he]
    exact List.mem_cons_self
  have hd := isDigit_of_mem_paddedDigits hm
  rw [hc] at hd
  contradiction

private theorem yearText_injective {a b : Int} (h : yearText a = yearText b) : a = b := by
  have hsign (c : Int) : (if c < 0 then '-' else '+').isDigit = false := by split <;> decide
  by_cases ha : 0 ≤ a ∧ a ≤ 9999 <;> by_cases hb : 0 ≤ b ∧ b ≤ 9999 <;>
    simp only [yearText, ha, hb, and_self, if_true, if_false] at h
  · have := paddedDigits_injective h
    omega
  · exact absurd h (ne_cons_paddedDigits (hsign b) _ _ _)
  · exact absurd h.symm (ne_cons_paddedDigits (hsign a) _ _ _)
  · obtain ⟨hs, hd⟩ := List.cons.inj h
    have := paddedDigits_injective hd
    split at hs <;> split at hs
    · omega
    · exact absurd hs (by decide)
    · exact absurd hs (by decide)
    · omega

private theorem compactText_injective {d e : Date} (hd : d.month < 100 ∧ d.day < 100)
    (he : e.month < 100 ∧ e.day < 100) (h : d.compactText = e.compactText) : d = e := by
  have hl := congrArg String.toList h
  simp only [compactText, String.toList_ofList] at hl
  have hday := List.append_inj' hl (by
    rw [length_paddedDigits (by decide) hd.2, length_paddedDigits (by decide) he.2])
  have hmonth := List.append_inj' hday.1 (by
    rw [length_paddedDigits (by decide) hd.1, length_paddedDigits (by decide) he.1])
  cases d
  cases e
  simp only [mk.injEq]
  exact ⟨yearText_injective hmonth.1, paddedDigits_injective hmonth.2,
    paddedDigits_injective hday.2⟩

/-- Different days are written differently, in years of any width. -/
theorem compactText_ofDayNumber_injective {m n : Int}
    (h : (ofDayNumber m).compactText = (ofDayNumber n).compactText) : m = n :=
  ofDayNumber_injective (compactText_injective
    ⟨month_ofDayNumber_lt m, day_ofDayNumber_lt m⟩ ⟨month_ofDayNumber_lt n, day_ofDayNumber_lt n⟩ h)

/-- A date without separators holds no colon either. -/
theorem colon_not_mem_compactText (d : Date) : ':' ∉ d.compactText.toList := by
  have digits (width n : Nat) : ':' ∉ paddedDigits width n := by
    intro hc
    exact absurd (isDigit_of_mem_paddedDigits hc) (by decide)
  have year : ':' ∉ yearText d.year := by
    unfold yearText
    split
    · exact digits _ _
    · intro hc
      rcases List.mem_cons.mp hc with hc | hc
      · split at hc <;> exact absurd hc (by decide)
      · exact digits _ _ hc
  intro hc
  simp only [compactText, String.toList_ofList, List.mem_append] at hc
  rcases hc with (hc | hc) | hc
  · exact year hc
  · exact digits _ _ hc
  · exact digits _ _ hc

end TenantGateway.Calendar.Date
