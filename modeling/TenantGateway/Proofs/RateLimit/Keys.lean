import TenantGateway.RateLimit.Window
import TenantGateway.Proofs.Calendar.Dates

/-! The names of counters tell organizations and windows apart, whatever characters an organization's
name has: what follows the last colon is the window, and what stands before it gives the name back. The
seconds left of a window lead to its end. -/
namespace TenantGateway.RateLimit
open Calendar (Timestamp Date)

/-- A text is cut at its last colon in one way only. -/
theorem cut_at_last_colon {a b s t : List Char} (hs : ':' ∉ s) (ht : ':' ∉ t)
    (h : a ++ ':' :: s = b ++ ':' :: t) : a = b ∧ s = t := by
  have tail (u v : List Char) (hv : ':' ∉ v) :
      (u ++ ':' :: v).reverse.takeWhile (· != ':') = v.reverse := by
    rw [List.reverse_append, List.reverse_cons, List.append_assoc,
      List.takeWhile_append_of_pos (by
        intro c hc
        rw [List.mem_reverse] at hc
        exact bne_iff_ne.mpr (fun he => hv (he ▸ hc)))]
    simp
  have hst : s.reverse = t.reverse := by rw [← tail a s hs, h, tail b t ht]
  have he : s = t := List.reverse_inj.mp hst
  subst he
  exact ⟨List.append_cancel_right h, rfl⟩

private theorem keyHead_append_injective {o p suffix : String}
    (h : (keyHead o).toList ++ suffix.toList = (keyHead p).toList ++ suffix.toList) : o = p := by
  have hh := List.append_cancel_right h
  simp only [keyHead, String.toList_append] at hh
  exact String.toList_injective (List.append_cancel_left (List.append_cancel_right hh))

/-- A day's name is cut at its last colon, in front of the date. -/
theorem dailyKey_toList (o : String) (t : Timestamp) :
    (dailyKey o t).toList =
      ((keyHead o).toList ++ ":daily".toList) ++ ':' :: t.date.compactText.toList := by
  rw [dailyKey, String.toList_append, String.toList_append,
    show ":daily:".toList = ":daily".toList ++ [':'] by rfl]
  simp only [List.append_assoc, List.singleton_append]

/-- A minute's name is cut at its last colon, in front of the minute's number. -/
theorem minuteKey_toList (o : String) (t : Timestamp) :
    (minuteKey o t).toList =
      ((keyHead o).toList ++ ":minute".toList) ++ ':' :: (toString (epochMinute t)).toList := by
  rw [minuteKey, String.toList_append, String.toList_append,
    show ":minute:".toList = ":minute".toList ++ [':'] by rfl]
  simp only [List.append_assoc, List.singleton_append]

/-- Moments have one date exactly when they lie in one day. -/
theorem date_eq_iff {t u : Timestamp} : t.date = u.date ↔ t.dayNumber = u.dayNumber :=
  ⟨Date.ofDayNumber_injective, fun h => congrArg Date.ofDayNumber h⟩

/-- A day's name tells the organization and the date. -/
theorem dailyKey_inj {o p : String} {t u : Timestamp} :
    dailyKey o t = dailyKey p u ↔ o = p ∧ t.date = u.date := by
  constructor
  · intro h
    have hl := congrArg String.toList h
    rw [dailyKey_toList, dailyKey_toList] at hl
    obtain ⟨hk, hd⟩ := cut_at_last_colon (Date.colon_not_mem_compactText _)
      (Date.colon_not_mem_compactText _) hl
    have hn := Date.compactText_ofDayNumber_injective (String.toList_injective hd)
    exact ⟨keyHead_append_injective hk, date_eq_iff.mpr hn⟩
  · rintro ⟨rfl, hd⟩
    rw [dailyKey, dailyKey, hd]

/-- A minute's name tells the organization and the minute. -/
theorem minuteKey_inj {o p : String} {t u : Timestamp} :
    minuteKey o t = minuteKey p u ↔ o = p ∧ epochMinute t = epochMinute u := by
  constructor
  · intro h
    have hl := congrArg String.toList h
    rw [minuteKey_toList, minuteKey_toList] at hl
    obtain ⟨hk, hm⟩ := cut_at_last_colon (Text.colon_not_mem_toString_int _)
      (Text.colon_not_mem_toString_int _) hl
    exact ⟨keyHead_append_injective hk, Text.toString_int_injective (String.toList_injective hm)⟩
  · rintro ⟨rfl, hm⟩
    rw [minuteKey, minuteKey, hm]

/-- What stands before the window tells the kinds of names apart. -/
theorem daily_head_ne_minute_head (o p : String) :
    (keyHead o).toList ++ ":daily".toList ≠ (keyHead p).toList ++ ":minute".toList := by
  intro h
  have hlast := congrArg List.getLast? h
  rw [List.getLast?_append, List.getLast?_append] at hlast
  exact absurd (Option.some.inj hlast) (by decide)

/-- No name is both a day's and a minute's. -/
theorem dailyKey_ne_minuteKey (o p : String) (t u : Timestamp) : dailyKey o t ≠ minuteKey p u := by
  intro h
  have hl := congrArg String.toList h
  rw [dailyKey_toList, minuteKey_toList] at hl
  obtain ⟨hk, _⟩ := cut_at_last_colon (Date.colon_not_mem_compactText _)
    (Text.colon_not_mem_toString_int _) hl
  exact daily_head_ne_minute_head o p hk

/-- The seconds until midnight are the distance to the next day's first second. -/
theorem toNat_secondsUntilMidnight (t : Timestamp) :
    ((secondsUntilMidnight t).toNat : Int) = (t.dayNumber + 1) * 86400 - t.seconds := by
  rw [secondsUntilMidnight, UInt64.toNat_ofNat', Nat.mod_eq_of_lt (by omega)]
  simp only [Timestamp.secondOfDay, Timestamp.dayNumber]
  omega

/-- A second is left of a day at least, and a whole day at most. -/
theorem secondsUntilMidnight_bounds (t : Timestamp) :
    1 ≤ (secondsUntilMidnight t).toNat ∧ (secondsUntilMidnight t).toNat ≤ 86400 := by
  have hleft := toNat_secondsUntilMidnight t
  simp only [Timestamp.dayNumber] at hleft
  omega

/-- The seconds until the next minute are the distance to its first second. -/
theorem toNat_secondsUntilNextMinute (t : Timestamp) :
    ((secondsUntilNextMinute t).toNat : Int) = (epochMinute t + 1) * 60 - t.seconds := by
  rw [secondsUntilNextMinute, UInt64.toNat_ofNat', Nat.mod_eq_of_lt (by omega)]
  simp only [Timestamp.secondOfMinute, epochMinute]
  omega

/-- A second is left of a minute at least, and a whole minute at most. -/
theorem secondsUntilNextMinute_bounds (t : Timestamp) :
    1 ≤ (secondsUntilNextMinute t).toNat ∧ (secondsUntilNextMinute t).toNat ≤ 60 := by
  have hleft := toNat_secondsUntilNextMinute t
  simp only [epochMinute] at hleft
  omega

/-- The date of the calendar on whose day a moment lies. -/
def FallsOn (t : Timestamp) (d : Date) : Prop :=
  d.Valid ∧ d.dayNumber * 86400 ≤ t.seconds ∧ t.seconds < (d.dayNumber + 1) * 86400

/-- The minute in which a moment lies, counted from 1970. -/
def FallsIn (t : Timestamp) (minute : Int) : Prop :=
  minute * 60 ≤ t.seconds ∧ t.seconds < (minute + 1) * 60

private theorem fallsOn_date (t : Timestamp) : FallsOn t t.date := by
  have hday : t.date.dayNumber = t.seconds / 86400 := Date.dayNumber_ofDayNumber t.dayNumber
  refine ⟨Date.valid_ofDayNumber t.dayNumber, ?_, ?_⟩
  · rw [hday]
    omega
  · rw [hday]
    omega

private theorem exists_fallsOn_iff {t u : Timestamp} :
    (∃ d, FallsOn t d ∧ FallsOn u d) ↔ t.date = u.date := by
  constructor
  · rintro ⟨d, ⟨-, ht, ht'⟩, -, hu, hu'⟩
    have hday : t.seconds / 86400 = u.seconds / 86400 := by omega
    exact date_eq_iff.mpr hday
  · intro h
    exact ⟨t.date, fallsOn_date t, h ▸ fallsOn_date u⟩

private theorem exists_fallsIn_iff {t u : Timestamp} :
    (∃ minute, FallsIn t minute ∧ FallsIn u minute) ↔ epochMinute t = epochMinute u := by
  rw [epochMinute, epochMinute]
  constructor
  · rintro ⟨minute, ⟨ht, ht'⟩, hu, hu'⟩
    omega
  · intro h
    refine ⟨t.seconds / 60, ⟨?_, ?_⟩, ?_, ?_⟩ <;> omega

/-- Two names are the same only for the same organization in the same window of the same kind. -/
theorem keys_unaliased (o p : String) (t u : Timestamp) :
    (dailyKey o t = dailyKey p u ↔ o = p ∧ ∃ d, FallsOn t d ∧ FallsOn u d) ∧
      (minuteKey o t = minuteKey p u ↔ o = p ∧ ∃ minute, FallsIn t minute ∧ FallsIn u minute) ∧
      dailyKey o t ≠ minuteKey p u := by
  rw [exists_fallsOn_iff, exists_fallsIn_iff]
  exact ⟨dailyKey_inj, minuteKey_inj, dailyKey_ne_minuteKey o p t u⟩

end TenantGateway.RateLimit
