import TenantGateway.Calendar.Rfc3339
import TenantGateway.Proofs.Calendar.Dates
import Mathlib.Tactic.SplitIfs

/-! A written timestamp is read back as itself: in years of any width and sign, with none, three, six or
nine decimals, and in a leap second, which is the sixtieth second of its minute. -/
namespace TenantGateway.Calendar
open Text

variable {c : Char} {digits rest : List Char}

section Fields

private theorem isBlank_of_isDigit (h : c.isDigit = true) : isBlank c = false := by
  simp only [Char.isDigit, Bool.and_eq_true, decide_eq_true_eq, ge_iff_le, UInt32.le_iff_toNat_le] at h
  obtain ⟨hlo, hhi⟩ := h
  have hlow : 48 ≤ c.toNat := hlo
  have hhigh : c.toNat ≤ 57 := hhi
  simp only [isBlank, Bool.or_eq_false_iff, Bool.and_eq_false_imp, decide_eq_true_eq,
    decide_eq_false_iff_not, beq_eq_false_iff_ne]
  omega

private theorem skipBlanks_cons (h : isBlank c = false) (rest : List Char) :
    skipBlanks (c :: rest) = c :: rest := by
  rw [skipBlanks, List.dropWhile_cons, h, if_neg Bool.false_ne_true]

private theorem skipBlanks_digits (hdigits : ∀ c ∈ digits, c.isDigit = true) (hne : digits ≠ [])
    (rest : List Char) : skipBlanks (digits ++ rest) = digits ++ rest := by
  cases digits with
  | nil => exact absurd rfl hne
  | cons c digits => exact skipBlanks_cons (isBlank_of_isDigit (hdigits c List.mem_cons_self)) _

private theorem endsDigits_take (hrest : EndsDigits rest) (n : Nat) : EndsDigits (rest.take n) := by
  intro c hc
  cases n with
  | zero => exact nomatch hc
  | succ n =>
    cases rest with
    | nil => exact nomatch hc
    | cons d rest => exact hrest c hc

private theorem scanNumber_digits {width : Option Nat} (hdigits : ∀ c ∈ digits, c.isDigit = true)
    (hne : digits ≠ []) (hwidth : ∀ w ∈ width, digits.length ≤ w) (hrest : EndsDigits rest)
    (hvalue : digitsValue digits < 0x8000000000000000) :
    scanNumber width (digits ++ rest) = .ok (digitsValue digits, rest) := by
  obtain ⟨c, cs, rfl⟩ := List.exists_cons_of_ne_nil hne
  cases width with
  | none =>
    have hrun := takeWhile_digits hdigits hrest
    simp only [scanNumber, hrun, List.isEmpty_cons, Bool.false_eq_true, if_false, if_pos hvalue,
      List.drop_left]
    rfl
  | some w =>
    have hrun : ((c :: cs ++ rest).take w).takeWhile Char.isDigit = c :: cs := by
      rw [List.take_append, List.take_of_length_le (hwidth w rfl)]
      exact takeWhile_digits hdigits (endsDigits_take hrest _)
    simp only [scanNumber, hrun, List.isEmpty_cons, Bool.false_eq_true, if_false, if_pos hvalue,
      List.drop_left]
    rfl

private theorem scanNumber_padded {width : Option Nat} {w n : Nat}
    (hwidth : ∀ v ∈ width, (paddedDigits w n).length ≤ v) (hrest : EndsDigits rest)
    (hn : n < 0x8000000000000000) :
    scanNumber width (paddedDigits w n ++ rest) = .ok (n, rest) := by
  have hvalue := digitsValue_paddedDigits w n
  have hscan := scanNumber_digits (fun _ => isDigit_of_mem_paddedDigits) (paddedDigits_ne_nil w n)
    hwidth hrest (by rwa [hvalue])
  rwa [hvalue] at hscan

private theorem scanField_padded {low high n : Nat} (hlow : low ≤ n) (hhigh : n ≤ high)
    (hn : n < 100) (hrest : EndsDigits rest) :
    scanField low high (paddedDigits 2 n ++ rest) = .ok (n, rest) := by
  have hwidth : ∀ w ∈ some 2, (paddedDigits 2 n).length ≤ w := by
    rintro w ⟨⟩
    exact Nat.le_of_eq (length_paddedDigits (by decide) hn)
  rw [scanField, skipBlanks_digits (fun _ => isDigit_of_mem_paddedDigits) (paddedDigits_ne_nil 2 n),
    scanNumber_padded hwidth hrest (by omega)]
  exact if_pos ⟨hlow, hhigh⟩

private theorem scanSeparator_cons (h : isBlank c = false) (rest : List Char) :
    scanSeparator c (c :: rest) = .ok ((), rest) := by
  rw [scanSeparator, skipBlanks_cons h]
  exact if_pos rfl

private theorem endsDigits_cons (h : c.isDigit = false) (rest : List Char) :
    EndsDigits (c :: rest) := by
  intro d hd
  cases hd
  exact h

end Fields

private theorem bind_of_read {α β : Type} {read : Except TimestampError α} {a : α}
    (hread : read = .ok a) (next : α → Except TimestampError β) : (read >>= next) = next a := by
  rw [hread]
  rfl

private theorem paddedDigits_append_ne {sign : Char} (hsign : sign.isDigit = false) (w n : Nat)
    (tail : List Char) : paddedDigits w n ++ rest ≠ sign :: tail := by
  intro he
  obtain ⟨c, cs, hcs⟩ := List.exists_cons_of_ne_nil (paddedDigits_ne_nil w n)
  have hdigit : c.isDigit = true := isDigit_of_mem_paddedDigits (hcs ▸ List.mem_cons_self)
  rw [hcs, List.cons_append] at he
  rw [(List.cons.inj he).1, hsign] at hdigit
  contradiction

private theorem scanYear_yearText {year : Int} (hlo : -262143 ≤ year) (hhi : year ≤ 262142)
    (hrest : EndsDigits rest) : scanYear (Date.yearText year ++ rest) = .ok (year, rest) := by
  have hrange : -0x80000000 ≤ year ∧ year < 0x80000000 := by omega
  rw [Date.yearText]
  split
  next hfour =>
    have hyear : (year.toNat : Int) = year := Int.toNat_of_nonneg hfour.1
    have hwidth : ∀ w ∈ some 4, (paddedDigits 4 year.toNat).length ≤ w := by
      rintro w ⟨⟩
      exact Nat.le_of_eq (length_paddedDigits (by decide) (by omega))
    have hskip := skipBlanks_digits (fun _ => isDigit_of_mem_paddedDigits)
      (paddedDigits_ne_nil 4 year.toNat) rest
    rw [scanYear, hskip]
    split
    next heq => exact absurd heq (paddedDigits_append_ne (by decide) _ _ _)
    next heq => exact absurd heq (paddedDigits_append_ne (by decide) _ _ _)
    next =>
      refine (bind_of_read (scanNumber_padded hwidth hrest (by omega)) _).trans ?_
      refine (bind_of_read rfl _).trans ?_
      rw [hyear]
      exact if_pos hrange
  next =>
    rw [List.cons_append]
    have hwidth : ∀ w ∈ (none : Option Nat), (paddedDigits 4 year.natAbs).length ≤ w := by
      rintro w ⟨⟩
    have hnumber := scanNumber_padded hwidth hrest (by omega)
    by_cases hnegative : year < 0
    · have hyear : -(year.natAbs : Int) = year := by omega
      rw [if_pos hnegative, scanYear, skipBlanks_cons (by decide)]
      refine (bind_of_read hnumber _).trans ((bind_of_read rfl _).trans ?_)
      rw [hyear]
      exact if_pos hrange
    · have hyear : (year.natAbs : Int) = year := by omega
      rw [if_neg hnegative, scanYear, skipBlanks_cons (by decide)]
      refine (bind_of_read hnumber _).trans ((bind_of_read rfl _).trans ?_)
      rw [hyear]
      exact if_pos hrange

private theorem scanDate_text {d : Date} (hvalid : d.Valid) (hlo : -262143 ≤ d.year)
    (hhi : d.year ≤ 262142) (hrest : EndsDigits rest) :
    scanDate (d.text.toList ++ rest) = .ok (d, rest) := by
  obtain ⟨hm1, hm12, hd1, hdays⟩ := hvalid
  have hd31 : d.day ≤ 31 := Nat.le_trans hdays (Date.daysInMonth_le _ _)
  have hdash (tail : List Char) : EndsDigits ('-' :: tail) := endsDigits_cons (by decide) tail
  simp only [Date.text, String.toList_ofList, List.append_assoc, List.cons_append]
  refine (bind_of_read (scanYear_yearText hlo hhi (hdash _)) _).trans ?_
  refine (bind_of_read (scanSeparator_cons (by decide) _) _).trans ?_
  refine (bind_of_read (scanField_padded hm1 hm12 (by omega) (hdash _)) _).trans ?_
  refine (bind_of_read (scanSeparator_cons (by decide) _) _).trans ?_
  exact bind_of_read (scanField_padded hd1 hd31 (by omega) hrest) _

private theorem scanDecimals_digits {w n : Nat} (hw : 0 < w) (hw9 : w ≤ 9) (hn : n < 10 ^ w)
    (hrest : EndsDigits rest) :
    scanDecimals ('.' :: paddedDigits w n ++ rest) = .ok (n * 10 ^ (9 - w), rest) := by
  have hlength := length_paddedDigits hw hn
  have hbound : n < 0x8000000000000000 := by
    have hpow : 10 ^ w ≤ 10 ^ 9 := Nat.pow_le_pow_right (by decide) hw9
    omega
  have hwidth : ∀ v ∈ some 9, (paddedDigits w n).length ≤ v := by
    rintro v ⟨⟩
    omega
  have hspent : (paddedDigits w n ++ rest).length - rest.length = w := by
    rw [List.length_append, hlength, Nat.add_sub_cancel]
  have hend : rest.dropWhile Char.isDigit = rest := dropWhile_digits (List.forall_mem_nil _) hrest
  rw [List.cons_append, scanDecimals]
  refine (bind_of_read (scanNumber_padded hwidth hrest hbound) _).trans ?_
  dsimp only
  rw [hspent, hend]
  rfl

private theorem scanDecimals_fractionChars {nanos : Nat} (h : nanos < 1000000000)
    (hrest : EndsDigits rest) (hpoint : rest.head? ≠ some '.') :
    scanDecimals (fractionChars nanos ++ rest) = .ok (nanos, rest) := by
  rw [fractionChars]
  split_ifs with hzero hmilli hmicro
  · subst hzero
    rw [List.nil_append, scanDecimals]
    rintro tail rfl
    exact hpoint rfl
  · have hnanos : nanos / 1000000 * 10 ^ (9 - 3) = nanos :=
      Nat.div_mul_cancel (Nat.dvd_of_mod_eq_zero hmilli)
    rw [scanDecimals_digits (by decide) (by decide) (by omega) hrest, hnanos]
  · have hnanos : nanos / 1000 * 10 ^ (9 - 6) = nanos :=
      Nat.div_mul_cancel (Nat.dvd_of_mod_eq_zero hmicro)
    rw [scanDecimals_digits (by decide) (by decide) (by omega) hrest, hnanos]
  · rw [scanDecimals_digits (by decide) (by decide) h hrest, Nat.sub_self, Nat.pow_zero,
      Nat.mul_one]

namespace Timestamp

/-- The time of day of a moment in UTC. -/
def clockTime (t : Timestamp) : ClockTime :=
  { hour := t.secondOfDay / 3600
    minute := t.secondOfDay / 60 % 60
    second := if t.isLeap then t.secondOfDay % 60 + 1 else t.secondOfDay % 60
    nanos := t.nanos % 1000000000 }

private theorem secondOfDay_lt (t : Timestamp) : t.secondOfDay < 86400 := by
  rw [secondOfDay]
  omega

private theorem seconds_eq (t : Timestamp) : t.seconds = t.dayNumber * 86400 + t.secondOfDay := by
  rw [dayNumber, secondOfDay]
  omega

private theorem year_date_bounds (t : Timestamp) : -262143 ≤ t.date.year ∧ t.date.year ≤ 262142 :=
  Date.year_ofDayNumber_bounds (Int.ediv_le_ediv (by decide) t.inRange.1)
    (Int.ediv_le_ediv (by decide) t.inRange.2)

private theorem secondOfDay_mod_of_isLeap {t : Timestamp} (h : t.isLeap = true) :
    t.secondOfDay % 60 = 59 := by
  have hnanos : 1000000000 ≤ t.nanos := of_decide_eq_true h
  have hlast : t.seconds % 60 = 59 := by
    rcases t.nanos_lt with hplain | ⟨-, hlast⟩
    · omega
    · exact hlast
  rw [seconds_eq] at hlast
  omega

/-- A leap second is the sixtieth second of its minute, and no other second is. -/
theorem second_clockTime_eq_sixty_iff (t : Timestamp) :
    t.clockTime.second = 60 ↔ t.isLeap = true := by
  dsimp only [clockTime]
  split
  next hleap =>
    have hlast := secondOfDay_mod_of_isLeap hleap
    exact iff_of_true (by omega) hleap
  next hleap => exact iff_of_false (by omega) hleap

private theorem secondOfDay_eq (t : Timestamp) :
    t.secondOfDay = t.clockTime.hour * 3600 + t.clockTime.minute * 60 +
      if t.clockTime.second = 60 then 59 else t.clockTime.second := by
  have hparts : t.secondOfDay =
      t.secondOfDay / 3600 * 3600 + t.secondOfDay / 60 % 60 * 60 + t.secondOfDay % 60 := by omega
  simp only [second_clockTime_eq_sixty_iff]
  dsimp only [clockTime]
  split
  next hleap => rwa [secondOfDay_mod_of_isLeap hleap] at hparts
  next => exact hparts

private theorem nanos_eq (t : Timestamp) :
    t.nanos = if t.clockTime.second = 60 then t.clockTime.nanos + 1000000000
      else t.clockTime.nanos := by
  have hbound := t.nanos_lt
  simp only [second_clockTime_eq_sixty_iff, isLeap, decide_eq_true_eq]
  dsimp only [clockTime]
  split <;> omega

/-- The date and the time of day in UTC determine a moment. -/
theorem moment_date_clockTime (t : Timestamp) : moment t.date t.clockTime 0 = .ok t := by
  have hdate : t.date.Valid ∧ isDateYear t.date.year = true := by
    refine ⟨Date.valid_ofDayNumber _, ?_⟩
    simp only [isDateYear, t.year_date_bounds, decide_true, Bool.and_self]
  have hday : t.date.dayNumber = t.dayNumber := Date.dayNumber_ofDayNumber _
  have hself : ofUnix? t.seconds t.nanos = some t := by
    rw [ofUnix?, dif_pos t.inRange, dif_pos t.nanos_lt]
  rw [moment, if_neg (not_not_intro hdate), if_neg (by decide)]
  simp only [hday, Int.sub_zero]
  rw [← secondOfDay_eq, ← seconds_eq, ← nanos_eq, hself]

private theorem scanClockTime_clockTime (t : Timestamp) :
    scanClockTime (paddedDigits 2 t.clockTime.hour ++ ':' :: (paddedDigits 2 t.clockTime.minute ++
      ':' :: (paddedDigits 2 t.clockTime.second ++ (fractionChars t.clockTime.nanos ++ ['Z'])))) =
      .ok (t.clockTime, ['Z']) := by
  have hlt := t.secondOfDay_lt
  have hhour : t.clockTime.hour ≤ 23 := by
    dsimp only [clockTime]
    omega
  have hminute : t.clockTime.minute ≤ 59 := by
    dsimp only [clockTime]
    omega
  have hsecond : t.clockTime.second ≤ 60 := by
    dsimp only [clockTime]
    split <;> omega
  have hnanos : t.clockTime.nanos < 1000000000 := Nat.mod_lt _ (by decide)
  have hcolon (tail : List Char) : EndsDigits (':' :: tail) := endsDigits_cons (by decide) tail
  have hzone : EndsDigits ['Z'] := endsDigits_cons (by decide) []
  have hfraction : EndsDigits (fractionChars t.clockTime.nanos ++ ['Z']) := by
    rw [fractionChars]
    split_ifs
    · exact hzone
    all_goals exact endsDigits_cons (by decide) _
  refine (bind_of_read (scanField_padded (Nat.zero_le _) hhour (by omega) (hcolon _)) _).trans ?_
  refine (bind_of_read (scanSeparator_cons (by decide) _) _).trans ?_
  refine (bind_of_read (scanField_padded (Nat.zero_le _) hminute (by omega) (hcolon _)) _).trans ?_
  refine (bind_of_read (scanSeparator_cons (by decide) _) _).trans ?_
  refine (bind_of_read (scanField_padded (Nat.zero_le _) hsecond (by omega) hfraction) _).trans ?_
  exact bind_of_read (scanDecimals_fractionChars hnanos hzone (by decide)) _

private theorem scanZone_utc : scanZone ['Z'] = .ok (0, []) := by
  rfl

/-- A written timestamp is read back as itself. -/
theorem parse_rfc3339 (t : Timestamp) : parse t.rfc3339 = .ok t := by
  have hchars : t.rfc3339.toList = t.date.text.toList ++ 'T' :: (paddedDigits 2 t.clockTime.hour ++
      ':' :: (paddedDigits 2 t.clockTime.minute ++ ':' :: (paddedDigits 2 t.clockTime.second ++
      (fractionChars t.clockTime.nanos ++ ['Z'])))) := by
    simp only [rfc3339, rfc3339Chars, clockTime, String.toList_ofList, List.append_assoc,
      List.cons_append]
  rw [parse, hchars]
  refine (bind_of_read (scanDate_text (Date.valid_ofDayNumber _) t.year_date_bounds.1 t.year_date_bounds.2
    (endsDigits_cons (by decide) _)) _).trans ?_
  refine (bind_of_read (a := ((), _)) rfl _).trans ?_
  refine (bind_of_read t.scanClockTime_clockTime _).trans ?_
  refine (bind_of_read scanZone_utc _).trans ?_
  exact t.moment_date_clockTime

example : (parse "+262142-12-31T23:59:60.999999999Z").toOption =
    some ⟨lastSecond, 1999999999, by decide, by decide⟩ := by decide +kernel

end Timestamp

end TenantGateway.Calendar
