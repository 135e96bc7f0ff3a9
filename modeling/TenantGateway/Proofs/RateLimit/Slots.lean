import TenantGateway.Proofs.RateLimit.Keys
import TenantGateway.Proofs.Text.Split

/-! Where a clustered store keeps counters. It goes by a name's tag, the text between the first opening
brace and the first closing brace after it, and by the whole name where there is no such text or it is
empty. The two counters of an organization carry one tag, unless the organization's name is empty or
begins with a closing brace: then they carry none, and there is no day on which they stay together. -/
namespace TenantGateway.RateLimit
open Calendar (Timestamp)
open Text

/-- What stands between the first opening brace and the first closing brace after it, unless that is
nothing. -/
def hashTag? (key : String) : Option String :=
  match (splitAtFirst '\x7b' key.toList).2 with
  | none => none
  | some rest =>
    match splitAtFirst '\x7d' rest with
    | (_, none) => none
    | (tag, some _) => if tag = [] then none else some (String.ofList tag)

/-- What the slot of a name is computed from. -/
def hashedPart (key : String) : String := (hashTag? key).getD key

namespace Crc16

/-- Moves the remainder on by one bit, modulo x^16 + x^12 + x^5 + 1. -/
def shift (r : BitVec 16) : BitVec 16 := if r.msb then (r <<< 1) ^^^ 0x1021#16 else r <<< 1

def shifts : Nat → BitVec 16 → BitVec 16
  | 0, r => r
  | n + 1, r => shifts n (shift r)

/-- Takes in a byte, high bit first. -/
def feed (r : BitVec 16) (b : UInt8) : BitVec 16 := shifts 8 (r ^^^ (b.toBitVec.setWidth 16 <<< 8))

def checksum (bytes : List UInt8) : BitVec 16 := bytes.foldl feed 0

private theorem shift_xor (r s : BitVec 16) : shift (r ^^^ s) = shift r ^^^ shift s := by
  rw [shift, shift, shift, BitVec.msb_xor, BitVec.shiftLeft_xor_distrib]
  cases r.msb <;> cases s.msb
  · rfl
  · exact BitVec.xor_assoc _ _ _
  · simp only [Bool.bne_false, if_true, Bool.false_eq_true, if_false]
    ac_rfl
  · simp only [bne_self_eq_false, if_true, Bool.false_eq_true, if_false]
    rw [BitVec.xor_comm (s <<< 1), BitVec.xor_assoc, ← BitVec.xor_assoc 0x1021#16,
      BitVec.xor_self, BitVec.zero_xor]

private theorem shifts_xor (n : Nat) (r s : BitVec 16) :
    shifts n (r ^^^ s) = shifts n r ^^^ shifts n s := by
  induction n generalizing r s with
  | zero => rfl
  | succ n ih => rw [shifts, shift_xor, ih, shifts, shifts]

private theorem low_shifts_ne_zero : ∀ b : BitVec 8, b ≠ 0 →
    (shifts 8 (b.setWidth 16 <<< 8)).setWidth 14 ≠ 0#14 := by
  decide +kernel

/-- The low bits of a remainder tell the last byte, since remainders are linear in the bytes. -/
theorem feed_low_injective {r : BitVec 16} {b c : UInt8}
    (h : (feed r b).setWidth 14 = (feed r c).setWidth 14) : b = c := by
  have hdiff : feed r b ^^^ feed r c =
      shifts 8 ((b.toBitVec ^^^ c.toBitVec).setWidth 16 <<< 8) := by
    rw [feed, feed, ← shifts_xor, BitVec.setWidth_xor, BitVec.shiftLeft_xor_distrib,
      BitVec.xor_comm r, BitVec.xor_assoc, ← BitVec.xor_assoc r, BitVec.xor_self, BitVec.zero_xor]
  have hlow : (shifts 8 ((b.toBitVec ^^^ c.toBitVec).setWidth 16 <<< 8)).setWidth 14 = 0#14 := by
    rw [← hdiff, BitVec.setWidth_xor, h, BitVec.xor_self]
  have hsame : b.toBitVec ^^^ c.toBitVec = 0 :=
    Decidable.byContradiction fun hne => low_shifts_ne_zero _ hne hlow
  exact UInt8.toBitVec_inj.mp (BitVec.xor_eq_zero_iff.mp hsame)

end Crc16

/-- The bytes of a text in UTF-8. -/
def bytesOf (cs : List Char) : List UInt8 := cs.flatMap String.utf8EncodeChar

/-- The slot of a name, one of 16384. -/
def slot (key : String) : BitVec 14 :=
  (Crc16.checksum (bytesOf (hashedPart key).toList)).setWidth 14

private theorem slot_eq_of_hashTag? {k l tag : String} (hk : hashTag? k = some tag)
    (hl : hashTag? l = some tag) : slot k = slot l := by
  rw [slot, slot, hashedPart, hashedPart, hk, hl, Option.getD_some, Option.getD_some]

example : slot "foo\x7bhash_tag\x7d" = 2515 ∧ slot "bar\x7bhash_tag\x7d" = 2515 := by decide +kernel

/-- Names without a tag that differ in the last byte alone are in different slots. -/
theorem slot_ne_of_last {k l : String} (hk : hashTag? k = none) (hl : hashTag? l = none)
    (front : List UInt8) {b c : UInt8} (hkb : bytesOf k.toList = front ++ [b])
    (hlc : bytesOf l.toList = front ++ [c]) (hbc : b ≠ c) : slot k ≠ slot l := by
  intro h
  rw [slot, slot, hashedPart, hashedPart, hk, hl, Option.getD_none, Option.getD_none, hkb, hlc,
    Crc16.checksum, Crc16.checksum, List.foldl_append, List.foldl_append] at h
  exact hbc (Crc16.feed_low_injective h)

/-- The name of an organization up to its first closing brace. -/
def tagOf (organization : String) : List Char := organization.toList.takeWhile (· != '\x7d')

/-- The name begins, and with something else than a closing brace. -/
def Taggable (organization : String) : Prop := ∃ c ∈ organization.toList.head?, c ≠ '\x7d'

private theorem taggable_iff {o : String} : Taggable o ↔ tagOf o ≠ [] := by
  rw [Taggable, tagOf]
  cases o.toList with
  | nil => simp
  | cons c cs =>
    rw [List.head?_cons, List.takeWhile_cons]
    by_cases hc : c = '\x7d'
    · subst hc
      simp
    · simp [hc]

private theorem hashTag?_keyHead_append (o suffix : String) :
    hashTag? (keyHead o ++ suffix) =
      if tagOf o = [] then none else some (String.ofList (tagOf o)) := by
  -- The first brace is the one in front of the organization, so the first closing one comes in its
  -- name, or else right after it.
  have houter : (keyHead o ++ suffix).toList =
      joinAt '\x7b' "ratelimit:".toList (some (o.toList ++ '\x7d' :: suffix.toList)) := by
    rw [keyHead, String.toList_append, String.toList_append, String.toList_append]
    simp [joinAt]
  obtain ⟨tag, rest, ho, htag⟩ := exists_joinAt '\x7d' o.toList
  have hinner : o.toList ++ '\x7d' :: suffix.toList =
      joinAt '\x7d' tag (some (rest.elim suffix.toList fun cs => cs ++ '\x7d' :: suffix.toList)) := by
    rw [ho]
    cases rest with
    | none => simp [joinAt]
    | some cs => simp [joinAt]
  have htagOf : tagOf o = tag := by rw [tagOf, ho, takeWhile_joinAt htag]
  rw [hashTag?, houter, splitAtFirst_joinAt (by decide), hinner]
  simp only [splitAtFirst_joinAt htag, htagOf]

private theorem hashTag?_dailyKey (o : String) (t : Timestamp) :
    hashTag? (dailyKey o t) = if tagOf o = [] then none else some (String.ofList (tagOf o)) := by
  rw [dailyKey, String.append_assoc, hashTag?_keyHead_append]

private theorem hashTag?_minuteKey (o : String) (t : Timestamp) :
    hashTag? (minuteKey o t) = if tagOf o = [] then none else some (String.ofList (tagOf o)) := by
  rw [minuteKey, String.append_assoc, hashTag?_keyHead_append]

private theorem exists_lastDigits (day : Int) : ∃ front i j, i < 10 ∧ j < 10 ∧ i ≠ j ∧
    (toString (1440 * day + 1)).toList = front ++ [Nat.digitChar i] ∧
    (toString (1440 * day + 2)).toList = front ++ [Nat.digitChar j] := by
  -- The second and the third minute of a day have numerals that differ in the last digit alone.
  rw [toString_int_toList, toString_int_toList]
  by_cases hday : 0 ≤ day
  · have hsame : (1440 * day + 2).toNat / 10 = (1440 * day + 1).toNat / 10 := by omega
    have hone : (1440 * day + 1).toNat % 10 = 1 := by omega
    have htwo : (1440 * day + 2).toNat % 10 = 2 := by omega
    refine ⟨leadingDigits (1440 * day + 1).toNat, 1, 2, by decide, by decide, by decide, ?_, ?_⟩
    · rw [if_pos (by omega), toDigits_eq_append, hone]
    · rw [if_pos (by omega), toDigits_eq_append, htwo, leadingDigits, hsame, leadingDigits]
  -- before 1970 the numerals count down
  · have hsame : (1440 * day + 2).natAbs / 10 = (1440 * day + 1).natAbs / 10 := by omega
    have hnine : (1440 * day + 1).natAbs % 10 = 9 := by omega
    have height : (1440 * day + 2).natAbs % 10 = 8 := by omega
    refine ⟨'-' :: leadingDigits (1440 * day + 1).natAbs, 9, 8, by decide, by decide, by decide,
      ?_, ?_⟩
    · rw [if_neg (by omega), toDigits_eq_append, hnine, List.cons_append]
    · rw [if_neg (by omega), toDigits_eq_append, height, leadingDigits, hsame, leadingDigits,
        List.cons_append]

private theorem utf8_digitChar : ∀ i < 10,
    String.utf8EncodeChar (Nat.digitChar i) = [UInt8.ofNat (48 + i)] := by
  decide

private theorem bytesOf_minuteKey {o : String} {t : Timestamp} {front : List Char} {i : Nat}
    (hi : i < 10) (ht : (toString (epochMinute t)).toList = front ++ [Nat.digitChar i]) :
    bytesOf (minuteKey o t).toList =
      bytesOf ((keyHead o).toList ++ ":minute:".toList ++ front) ++ [UInt8.ofNat (48 + i)] := by
  rw [minuteKey, String.toList_append, String.toList_append, ht, ← List.append_assoc, bytesOf,
    List.flatMap_append, List.flatMap_singleton, utf8_digitChar i hi, bytesOf]

private theorem slot_minuteKey_ne {o : String} (ho : tagOf o = []) {t u : Timestamp} {day : Int}
    (ht : epochMinute t = 1440 * day + 1) (hu : epochMinute u = 1440 * day + 2) :
    slot (minuteKey o t) ≠ slot (minuteKey o u) := by
  have untagged (v : Timestamp) : hashTag? (minuteKey o v) = none := by
    rw [hashTag?_minuteKey, if_pos ho]
  obtain ⟨front, i, j, hi, hj, hij, hti, huj⟩ := exists_lastDigits day
  rw [← ht] at hti
  rw [← hu] at huj
  refine slot_ne_of_last (untagged t) (untagged u) _ (bytesOf_minuteKey hi hti)
    (bytesOf_minuteKey hj huj) fun h => ?_
  have hnat := congrArg UInt8.toNat h
  simp only [UInt8.toNat_ofNat'] at hnat
  omega

private theorem exists_moment (t : Timestamp) {k : Nat} (hk : k < 1440) :
    ∃ u : Timestamp, u.date = t.date ∧ epochMinute u = 1440 * t.dayNumber + k := by
  obtain ⟨hlo, hhi⟩ := t.inRange
  unfold Calendar.firstSecond at hlo
  unfold Calendar.lastSecond at hhi
  refine ⟨⟨86400 * t.dayNumber + 60 * k, 0, ?_, .inl (by decide)⟩, ?_, ?_⟩
  · unfold Calendar.firstSecond Calendar.lastSecond Timestamp.dayNumber
    omega
  · refine date_eq_iff.mpr ?_
    simp only [Timestamp.dayNumber]
    omega
  · simp only [epochMinute]
    omega

/-- Both counters of an organization carry one tag and are in one slot, whatever the times. -/
structure Colocated (organization : String) : Prop where
  tagged : ∃ tag, ∀ t, hashTag? (dailyKey organization t) = some tag ∧
    hashTag? (minuteKey organization t) = some tag
  together : ∀ t u, slot (dailyKey organization t) = slot (minuteKey organization u)

/-- Neither counter carries a tag, and every day has a time when they are in different slots. -/
structure Scattered (organization : String) : Prop where
  untagged : ∀ t, hashTag? (dailyKey organization t) = none ∧
    hashTag? (minuteKey organization t) = none
  apart : ∀ t : Timestamp, ∃ u : Timestamp, u.date = t.date ∧
    slot (dailyKey organization u) ≠ slot (minuteKey organization u)

private theorem colocated_of_taggable {o : String} (h : Taggable o) : Colocated o := by
  have hdaily (t : Timestamp) := (hashTag?_dailyKey o t).trans (if_neg (taggable_iff.mp h))
  have hminute (t : Timestamp) := (hashTag?_minuteKey o t).trans (if_neg (taggable_iff.mp h))
  exact ⟨⟨_, fun t => ⟨hdaily t, hminute t⟩⟩,
    fun t u => slot_eq_of_hashTag? (hdaily t) (hminute u)⟩

private theorem scattered_of_not_taggable {o : String} (h : ¬Taggable o) : Scattered o := by
  have ho : tagOf o = [] := Decidable.not_not.mp fun hne => h (taggable_iff.mpr hne)
  refine ⟨fun t => ⟨?_, ?_⟩, fun t => ?_⟩
  · rw [hashTag?_dailyKey, if_pos ho]
  · rw [hashTag?_minuteKey, if_pos ho]
  -- the day's counter stays where it is from one minute to the next, the minute's counter does not
  · obtain ⟨u, hu, hsecond⟩ := exists_moment t (k := 1) (by decide)
    obtain ⟨v, hv, hthird⟩ := exists_moment t (k := 2) (by decide)
    have hday : dailyKey o u = dailyKey o v := dailyKey_inj.mpr ⟨rfl, hu.trans hv.symm⟩
    by_cases hslot : slot (dailyKey o u) = slot (minuteKey o u)
    · refine ⟨v, hv, fun hslot' => slot_minuteKey_ne ho hsecond hthird ?_⟩
      rw [← hslot, hday, hslot']
    · exact ⟨u, hu, hslot⟩

/-- The counters of an organization stay together exactly when its name makes a tag. -/
theorem colocated_iff_taggable (o : String) :
    (Colocated o ↔ Taggable o) ∧ (Scattered o ↔ ¬Taggable o) := by
  have hnot (hc : Colocated o) (hs : Scattered o) : False := by
    obtain ⟨u, -, hne⟩ := hs.apart .epoch
    exact hne (hc.together u u)
  exact ⟨⟨fun hc => Classical.not_not.mp fun h => hnot hc (scattered_of_not_taggable h),
      colocated_of_taggable⟩,
    ⟨fun hs h => hnot (colocated_of_taggable h) hs, scattered_of_not_taggable⟩⟩

/-- The counters of a nameless organization are in different slots as 1970 begins. -/
theorem not_colocated_nameless : ¬∀ o, Colocated o := by
  intro h
  exact absurd ((h "").together .epoch .epoch) (by decide +kernel)

end TenantGateway.RateLimit
