import TenantGateway.Calendar.Date
import TenantGateway.Text.Numeral

/-!
Which texts are dates and times in TOML: a date, a time of day whose seconds may be left out, or
both with an optional distance from universal time.
-/

namespace TenantGateway.Toml

/-- The value of a run of exactly `width` digits. -/
def fixedNumber? (width : Nat) (cs : List Char) : Option Nat :=
  if cs.length = width ∧ cs.all Char.isDigit then some (Text.digitsValue cs) else none

/-- A number of two digits of at most `high`. -/
def isUpTo (high : Nat) (cs : List Char) : Bool :=
  (fixedNumber? 2 cs).any (· ≤ high)

/-- A day of the calendar, as four, two and two digits with hyphens between. -/
def isDate (cs : List Char) : Bool :=
  match fixedNumber? 4 (cs.take 4), cs.drop 4 with
  | some year, ['-', a, b, '-', c, d] =>
    match fixedNumber? 2 [a, b], fixedNumber? 2 [c, d] with
    | some month, some day =>
      1 ≤ month && month ≤ 12 && 1 ≤ day && day ≤ Calendar.Date.daysInMonth year month
    | _, _ => false
  | _, _ => false

/-- Hours and minutes, and seconds with decimals if they are given. -/
def isClockTime : List Char → Bool
  | a :: b :: ':' :: c :: d :: rest =>
    isUpTo 23 [a, b] && isUpTo 59 [c, d] &&
      match rest with
      | [] => true
      | [':', e, f] => isUpTo 60 [e, f]
      | ':' :: e :: f :: '.' :: decimals =>
        isUpTo 60 [e, f] && !decimals.isEmpty && decimals.all Char.isDigit
      | _ => false
  | _ => false

/-- A distance from universal time. -/
def isOffset : List Char → Bool
  | ['Z'] | ['z'] => true
  | [sign, a, b, ':', c, d] => (sign == '+' || sign == '-') && isUpTo 23 [a, b] && isUpTo 59 [c, d]
  | _ => false

/-- A time of day followed by a distance, if any. -/
def isZonedClockTime (cs : List Char) : Bool :=
  let clock := cs.takeWhile fun c => c.isDigit || c == ':' || c == '.'
  let rest := cs.drop clock.length
  isClockTime clock && (rest.isEmpty || isOffset rest)

def isDateTime (cs : List Char) : Bool :=
  isDate cs || isClockTime cs ||
    match cs.drop 10 with
    | mark :: rest =>
      isDate (cs.take 10) && (mark == 'T' || mark == 't' || mark == ' ') && isZonedClockTime rest
    | [] => false

end TenantGateway.Toml
